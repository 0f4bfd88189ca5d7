set_option autoImplicit false

namespace SiteCache.Text

def maxInt32 : Nat := 2147483647

def maxInt64 : Nat := 9223372036854775807

def digitsOf (n : Nat) : List Char := Nat.toDigits 10 n

def signedDigits : Int → List Char
  | .ofNat n => digitsOf n
  | .negSucc n => '-' :: digitsOf (n + 1)

def natText (n : Nat) : String := .ofList (digitsOf n)

def intText (n : Int) : String := .ofList (signedDigits n)

def digitsValue (s : List Char) : Nat := Nat.ofDigitChars 10 s 0

def paddedDigits (width n : Nat) : List Char :=
  List.replicate (width - (digitsOf n).length) '0' ++ digitsOf n

inductive NumeralError where
  | empty
  | invalidDigit
  | tooLarge
  | tooSmall
  deriving DecidableEq, Repr

def NumeralError.message : NumeralError → String
  | .empty => "cannot parse integer from empty string"
  | .invalidDigit => "invalid digit found in string"
  | .tooLarge => "number too large to fit in target type"
  | .tooSmall => "number too small to fit in target type"

/-- Digits in front of the first character that is none decide whether the value leaves the range
first. -/
def boundedDigits (limit : Nat) (overflow : NumeralError) : Nat → List Char →
    Except NumeralError Nat
  | value, [] => .ok value
  | value, c :: rest =>
    if c.isDigit then
      let next := 10 * value + (c.toNat - '0'.toNat)
      if next ≤ limit then boundedDigits limit overflow next rest else .error overflow
    else .error .invalidDigit

def readNat (limit : Nat) : List Char → Except NumeralError Nat
  | [] => .error .empty
  | ['+'] => .error .invalidDigit
  | '+' :: digits => boundedDigits limit .tooLarge 0 digits
  | digits => boundedDigits limit .tooLarge 0 digits

def readInt (limit : Nat) : List Char → Except NumeralError Int
  | [] => .error .empty
  | ['+'] => .error .invalidDigit
  | ['-'] => .error .invalidDigit
  | '-' :: digits => (boundedDigits (limit + 1) .tooSmall 0 digits).map (fun n => -(n : Int))
  | '+' :: digits => (boundedDigits limit .tooLarge 0 digits).map (fun n => (n : Int))
  | digits => (boundedDigits limit .tooLarge 0 digits).map (fun n => (n : Int))

def readUInt32 (s : List Char) : Except NumeralError UInt32 :=
  (readNat (UInt32.size - 1) s).map UInt32.ofNat

def readUInt64 (s : List Char) : Except NumeralError UInt64 :=
  (readNat (UInt64.size - 1) s).map UInt64.ofNat

def readInt64 (s : List Char) : Except NumeralError Int64 :=
  (readInt maxInt64 s).map Int64.ofInt

end SiteCache.Text
