set_option autoImplicit false

namespace SiteCache.Json

inductive Fault where
  | valueMissing
  | notValue
  | badWord
  | cutWord
  | badNumber
  | cutNumber
  | numberOutOfRange
  | openString
  | controlCharacter
  | badEscape
  | loneSurrogate
  | unpairedSurrogate
  | notText
  | openList
  | listSeparator
  | listComma
  | openObject
  | objectSeparator
  | objectComma
  | objectCut
  | keyNotString
  | colonMissing
  | trailingText
  deriving DecidableEq, Repr

/-- Whether a value is wanted or only passed over. -/
inductive Attention where
  | read
  | skip
  deriving DecidableEq, Repr

def Fault.message (attention : Attention) : Fault → String
  | .valueMissing => "EOF while parsing a value"
  | .notValue => "expected value"
  | .badWord => "expected ident"
  | .cutWord => "EOF while parsing a value"
  | .badNumber => "invalid number"
  | .cutNumber =>
    match attention with
    | .read => "EOF while parsing a value"
    | .skip => "invalid number"
  | .numberOutOfRange => "number out of range"
  | .openString => "EOF while parsing a string"
  | .controlCharacter => "control character (\\u0000-\\u001F) found while parsing a string"
  | .badEscape => "invalid escape"
  | .loneSurrogate => "lone leading surrogate in hex escape"
  | .unpairedSurrogate => "unexpected end of hex escape"
  | .notText => "invalid unicode code point"
  | .openList => "EOF while parsing a list"
  | .listSeparator => "expected `,` or `]`"
  | .listComma =>
    match attention with
    | .read => "trailing comma"
    | .skip => "expected value"
  | .openObject => "EOF while parsing an object"
  | .objectSeparator => "expected `,` or `\x7d`"
  | .objectComma =>
    match attention with
    | .read => "trailing comma"
    | .skip => "key must be a string"
  | .objectCut =>
    match attention with
    | .read => "EOF while parsing a value"
    | .skip => "EOF while parsing an object"
  | .keyNotString => "key must be a string"
  | .colonMissing => "expected `:`"
  | .trailingText => "trailing characters"

end SiteCache.Json
