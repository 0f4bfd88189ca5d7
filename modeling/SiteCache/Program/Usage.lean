set_option autoImplicit false

namespace SiteCache.Program

inductive UsageError where
  | nothingAsked
  | unknownArgument (argument : String)
  | unknownCommand (name : String)
  | missingCommand
  | missingRequired
  | missingValue (option : String)
  | repeatedOption (option : String)
  | unexpectedValue (option value : String)
  | invalidValue (option value reason : String)
  deriving DecidableEq, Repr

def quote (s : String) : String := "'" ++ s ++ "'"

def UsageError.message : UsageError → String
  | .nothingAsked => "Mirror a store's plugins, products and coupons into a local cache"
  | .unknownArgument argument => "error: unexpected argument " ++ quote argument ++ " found"
  | .unknownCommand name => "error: unrecognized subcommand " ++ quote name
  | .missingCommand => "error: 'shopsync' requires a subcommand but one was not provided"
  | .missingRequired => "error: the following required arguments were not provided:"
  | .missingValue option =>
    "error: a value is required for " ++ quote option ++ " but none was supplied"
  | .repeatedOption option =>
    "error: the argument " ++ quote option ++ " cannot be used multiple times"
  | .unexpectedValue option value =>
    "error: unexpected value " ++ quote value ++ " for " ++ quote option ++
      " found; no more were expected"
  | .invalidValue option value reason =>
    "error: invalid value " ++ quote value ++ " for " ++ quote option ++ ": " ++ reason

inductive Stop where
  | usage (error : UsageError)
  | help
  | version
  deriving DecidableEq, Repr

end SiteCache.Program
