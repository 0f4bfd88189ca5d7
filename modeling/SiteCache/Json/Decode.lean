import SiteCache.Decimal.Shortest
import SiteCache.Json.Node
import SiteCache.Text.Decimal
import SiteCache.Text.Quoted

set_option autoImplicit false

namespace SiteCache.Json

inductive Found where
  | null
  | boolean (b : Bool)
  | integer (n : Int)
  | float (text : String)
  | string (s : String)
  | sequence
  | map
  deriving DecidableEq, Repr

def floatLayout : Decimal.Layout := ⟨-5, 15⟩

def Found.describe : Found → String
  | .null => "null"
  | .boolean true => "boolean `true`"
  | .boolean false => "boolean `false`"
  | .integer n => "integer `" ++ Text.intText n ++ "`"
  | .float text => "floating point `" ++ text ++ "`"
  | .string s => "string " ++ Text.quoted s
  | .sequence => "sequence"
  | .map => "map"

inductive DecodeError where
  | malformed (fault : Fault) (attention : Attention)
  | invalidType (found : Found) (expected : String)
  | integerOutOfRange (n : Int) (expected : String)
  | invalidLength (length : Nat) (expected : String)
  | missingField (name : String)
  | duplicateField (name : String)
  | unknownVariant (name : String) (variants : List String)
  | unreadable (reason : String)
  deriving DecidableEq, Repr

def backquoted (name : String) : String := "`" ++ name ++ "`"

def alternatives : List String → String
  | [a] => "expected " ++ backquoted a
  | [a, b] => "expected " ++ backquoted a ++ " or " ++ backquoted b
  | names => "expected one of " ++ ", ".intercalate (names.map backquoted)

def DecodeError.message : DecodeError → String
  | .malformed fault attention => fault.message attention
  | .invalidType found expected => "invalid type: " ++ found.describe ++ ", expected " ++ expected
  | .integerOutOfRange n expected =>
    "invalid value: " ++ (Found.integer n).describe ++ ", expected " ++ expected
  | .invalidLength length expected =>
    "invalid length " ++ Text.natText length ++ ", expected " ++ expected
  | .missingField name => "missing field " ++ backquoted name
  | .duplicateField name => "duplicate field " ++ backquoted name
  | .unknownVariant name variants =>
    "unknown variant " ++ backquoted name ++ ", " ++ alternatives variants
  | .unreadable reason => reason

abbrev Decoder (α : Type) := Node → Except DecodeError α

def readFault {α : Type} (fault : Fault) : Except DecodeError α :=
  .error (.malformed fault .read)

def numberOf (n : Numeral) : Except DecodeError Number :=
  match n.number? with
  | some number => .ok number
  | none => readFault .numberOutOfRange

def textOf (l : Literal) : Except DecodeError String :=
  match l.text with
  | .ok s => .ok s
  | .error fault => readFault fault

def foundNumber : Number → Found
  | .integer n => .integer n
  | .float x => .float (floatLayout.writeFloat x)

/-- The objection to a value of the wrong kind; a value that is no JSON is faulted for that. -/
def mismatch {α : Type} (expected : String) (node : Node) : Except DecodeError α := do
  let found ← match node with
    | .null => pure Found.null
    | .bool b => pure (.boolean b)
    | .number n => (numberOf n).map foundNumber
    | .string l => (textOf l).map .string
    | .array _ _ => pure .sequence
    | .object _ _ => pure .map
    | .fault f => readFault f
  .error (.invalidType found expected)

def skip (node : Node) : Except DecodeError Unit :=
  match node.skipFault? with
  | none => .ok ()
  | some fault => .error (.malformed fault .skip)

namespace Decode

def text : Decoder String
  | .string l => textOf l
  | node => mismatch "a string" node

def boolean : Decoder Bool
  | .bool b => .ok b
  | node => mismatch "a boolean" node

def unit : Decoder Unit
  | .null => .ok ()
  | node => mismatch "unit" node

def int64 : Decoder Int64
  | .number n => do
    match ← numberOf n with
    | .integer value =>
      if value ≤ Text.maxInt64 then pure (Int64.ofInt value)
      else .error (.integerOutOfRange value "i64")
    | .float _ => mismatch "i64" (.number n)
  | node => mismatch "i64" node

def count : Decoder Nat
  | .number n => do
    match ← numberOf n with
    | .integer value =>
      if 0 ≤ value then pure value.toNat else .error (.integerOutOfRange value "u64")
    | .float _ => mismatch "u64" (.number n)
  | node => mismatch "u64" node

def nullable {α : Type} (inner : Decoder α) : Decoder (Option α)
  | .null => .ok none
  | node => (inner node).map some

def parsed {α : Type} (expected : String) (parse : String → Except String α) : Decoder α
  | .string l => do
    match parse (← textOf l) with
    | .ok a => pure a
    | .error reason => .error (.unreadable reason)
  | node => mismatch expected node

def items {α : Type} (inner : Decoder α) : List Node → Option Fault → Except DecodeError (List α)
  | [], none => .ok []
  | [], some fault => readFault fault
  | node :: rest, ending => do
    let first ← inner node
    pure (first :: (← items inner rest ending))

def list {α : Type} (inner : Decoder α) : Decoder (List α)
  | .array nodes ending => items inner nodes ending
  | node => mismatch "a sequence" node

/-- A choice among names, written as a string or as an object whose only member is null. -/
def choice {α : Type} (ofName : String → Except DecodeError α) : Decoder α
  | .string l => do ofName (← textOf l)
  | .object [] none => readFault .notValue
  | .object [] (some _) => readFault .valueMissing
  | .object ((.string l, value) :: rest) ending => do
    let a ← ofName (← textOf l)
    let _ ← unit value
    match rest, ending with
    | [], none => pure a
    | [], some .openObject => readFault .openObject
    | _, _ => readFault .notValue
  | .object ((key, _) :: _) _ => mismatch "variant identifier" key
  | .fault .valueMissing => readFault .valueMissing
  | .fault .listComma => readFault .listComma
  | .fault .openObject => readFault .openObject
  | .fault .colonMissing => readFault .colonMissing
  | _ => readFault .notValue

end Decode

def Document.decode {α : Type} (decoder : Decoder α) (document : Document) :
    Except DecodeError α := do
  let a ← decoder document.root
  if document.trailing then readFault .trailingText else pure a

def decodeText {α : Type} (decoder : Decoder α) (s : String) : Except DecodeError α :=
  (Document.ofText s).decode decoder

end SiteCache.Json
