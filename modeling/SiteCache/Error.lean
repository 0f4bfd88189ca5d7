import SiteCache.Text.Decimal

set_option autoImplicit false

namespace SiteCache

inductive ValidationError where
  | required (field : String)
  | outOfRange (field : String) (min max : Int)
  | mustBePositive (field : String)
  | invalidFormat (field reason : String)
  deriving DecidableEq, Repr

def ValidationError.message : ValidationError → String
  | .required field => field ++ " is required"
  | .outOfRange field min max =>
    field ++ " must be between " ++ Text.intText min ++ " and " ++ Text.intText max
  | .mustBePositive field => field ++ " must be positive"
  | .invalidFormat field reason => field ++ " has invalid format: " ++ reason

def ValidationError.label : ValidationError → String
  | .required _ => "Required"
  | .outOfRange .. => "OutOfRange"
  | .mustBePositive _ => "MustBePositive"
  | .invalidFormat .. => "InvalidFormat"

inductive DomainError where
  | unknownResourceKind (name : String)
  | unknownSortOrder (name : String)
  | unknownValue (field value : String)
  | validation (error : ValidationError)
  deriving DecidableEq, Repr

def DomainError.message : DomainError → String
  | .unknownResourceKind name => "Unknown resource kind: " ++ name
  | .unknownSortOrder name => "Unknown sort order: " ++ name
  | .unknownValue field value => "Unknown " ++ field ++ ": " ++ value
  | .validation error => "Validation error: " ++ error.message

def DomainError.label : DomainError → String
  | .unknownResourceKind _ => "UnknownResourceKind"
  | .unknownSortOrder _ => "UnknownSortOrder"
  | .unknownValue .. => "UnknownValue"
  | .validation _ => "Validation"

end SiteCache
