import SiteCache.Text.Decimal
import SiteCache.Text.Hexadecimal
import SiteCache.Time.Calendar
import SiteCache.Toml.Value

set_option autoImplicit false

namespace SiteCache.Toml

def readDigits (digit : Char → Bool) : List Char → List Char × List Char
  | [] => ([], [])
  | c :: rest =>
    if digit c then
      let (digits, rest) := readDigits digit rest
      (c :: digits, rest)
    else if c = '_' ∧ rest.head?.any digit then readDigits digit rest
    else ([], c :: rest)

def someDigits (digit : Char → Bool) (s : List Char) : Option (List Char × List Char) :=
  if s.head?.any digit then some (readDigits digit s) else none

def readWhole : List Char → Option (List Char × List Char)
  | '0' :: rest => some (['0'], rest)
  | s => someDigits Char.isDigit s

def readSign : List Char → Bool × List Char
  | '-' :: rest => (true, rest)
  | '+' :: rest => (false, rest)
  | s => (false, s)

def radixValue (radix : Nat) (digits : List Char) : Nat :=
  digits.foldl (fun value c => radix * value + (Text.hexValue? c).getD 0) 0

def readRadix (radix : Nat) (s : List Char) : Option (Int × List Char) :=
  (someDigits (fun c => (Text.hexValue? c).any (· < radix)) s).map fun (digits, rest) =>
    ((radixValue radix digits : Int), rest)

def readWholeNumber : List Char → Option (Int × List Char)
  | '0' :: 'x' :: rest => readRadix 16 rest
  | '0' :: 'o' :: rest => readRadix 8 rest
  | '0' :: 'b' :: rest => readRadix 2 rest
  | s =>
    let (negative, s) := readSign s
    (readWhole s).map fun (digits, rest) =>
      let value : Int := radixValue 10 digits
      (if negative then -value else value, rest)

def readInteger (s : List Char) : Option (Value × List Char) :=
  match readWholeNumber s with
  | some (n, rest) =>
    if -(Text.maxInt64 : Int) - 1 ≤ n ∧ n ≤ Text.maxInt64 then
      some (.integer (Int64.ofInt n), rest)
    else none
  | none => none

def readExponent : List Char → Option ((Bool × List Char) × List Char)
  | [] => none
  | c :: rest =>
    if c = 'e' ∨ c = 'E' then
      let (negative, s) := readSign rest
      (someDigits Char.isDigit s).map fun (digits, rest) => ((negative, digits), rest)
    else none

def readFraction : List Char → Option (List Char × List Char)
  | '.' :: rest => someDigits Char.isDigit rest
  | _ => none

/-- Half a step above the largest finite number of the binary format with 64 bits. From here on
numbers have no neighbour to be rounded to. -/
def floatBound : Nat := Nat.pow 2 1024 - Nat.pow 2 970

/-- `whole.fraction * 10 ^ exponent` lies below the bound. An exponent that the digits cannot
balance decides alone, so that no larger power is computed than they call for. -/
def isFinite (whole fraction : List Char) (exponent : Bool × List Char) : Bool :=
  let significand := radixValue 10 (whole ++ fraction)
  let power := radixValue 10 exponent.2
  if significand = 0 then true
  else if exponent.1 then
    whole.length ≤ power || significand < floatBound * Nat.pow 10 (fraction.length + power)
  else
    power ≤ fraction.length + 400 &&
      significand * Nat.pow 10 power < floatBound * Nat.pow 10 fraction.length

def consumed (s rest : List Char) : String := .ofList (s.take (s.length - rest.length))

def readWord (word : String) (s : List Char) : Option (List Char) :=
  if word.toList.isPrefixOf s then some (s.drop word.length) else none

def readNumeral (s : List Char) : Option (List Char) := do
  let (negative, unsigned) := readSign s
  let (whole, rest) ← readWhole unsigned
  let (fraction, exponent, rest) ← match readFraction rest with
    | some (fraction, rest) =>
      match readExponent rest with
      | some (exponent, rest) => some (fraction, exponent, rest)
      | none => some (fraction, (false, []), rest)
    | none => (readExponent rest).map fun (exponent, rest) => ([], exponent, rest)
  if negative || isFinite whole fraction exponent then some rest else none

def readFloat (s : List Char) : Option (Value × List Char) :=
  let unsigned := (readSign s).2
  (readNumeral s <|> readWord "inf" unsigned <|> readWord "nan" unsigned).map fun rest =>
    (.float (consumed s rest), rest)

def readBoolean (s : List Char) : Option (Value × List Char) :=
  (readWord "true" s).map (.boolean true, ·) <|> (readWord "false" s).map (.boolean false, ·)

def readField (width low high : Nat) (s : List Char) : Option (Nat × List Char) :=
  let digits := s.take width
  let value := radixValue 10 digits
  if digits.length = width ∧ digits.all Char.isDigit ∧ low ≤ value ∧ value ≤ high then
    some (value, s.drop width)
  else none

def readMark (mark : Char) : List Char → Option (List Char)
  | [] => none
  | c :: rest => if c = mark then some rest else none

def readDate (s : List Char) : Option (List Char) := do
  let (year, s) ← readField 4 0 9999 s
  let s ← readMark '-' s
  let (month, s) ← readField 2 1 12 s
  let s ← readMark '-' s
  let (_, s) ← readField 2 1 (Time.daysInMonth year month) s
  pure s

def readClock (s : List Char) : Option (List Char) := do
  let (_, s) ← readField 2 0 23 s
  let s ← readMark ':' s
  let (_, s) ← readField 2 0 59 s
  let s ← readMark ':' s
  let (_, s) ← readField 2 0 60 s
  match s with
  | '.' :: c :: rest => pure (if c.isDigit then rest.dropWhile Char.isDigit else s)
  | _ => pure s

def readZone : List Char → Option (List Char)
  | [] => none
  | c :: rest =>
    if c = 'Z' ∨ c = 'z' then some rest
    else if c = '+' ∨ c = '-' then do
      let (_, s) ← readField 2 0 23 rest
      let s ← readMark ':' s
      let (_, s) ← readField 2 0 59 s
      pure s
    else none

def readTimePart : List Char → Option (List Char)
  | [] => none
  | c :: rest =>
    if c = 'T' ∨ c = 't' ∨ c = ' ' then
      (readClock rest).map fun s => (readZone s).getD s
    else none

def readMoment (s : List Char) : Option (Value × List Char) :=
  ((readDate s).map (fun rest => (readTimePart rest).getD rest) <|> readClock s).map fun rest =>
    (.moment (consumed s rest), rest)

def readScalar (s : List Char) : Option (Value × List Char) :=
  readMoment s <|> readFloat s <|> readInteger s <|> readBoolean s

end SiteCache.Toml
