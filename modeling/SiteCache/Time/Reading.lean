import SiteCache.Text.Blank
import SiteCache.Text.Decimal
import SiteCache.Time.Instant

set_option autoImplicit false

namespace SiteCache.Time

inductive ReadError where
  | tooShort
  | invalid
  | outOfRange
  | tooLong
  | impossible
  deriving DecidableEq, Repr

def ReadError.message : ReadError → String
  | .tooShort => "premature end of input"
  | .invalid => "input contains invalid characters"
  | .outOfRange => "input is out of range"
  | .tooLong => "trailing input"
  | .impossible => "no possible date and time matching input"

def number (width : Nat) (s : List Char) : Except ReadError (Nat × List Char) :=
  match (s.take width).takeWhile Char.isDigit with
  | [] => .error (if s.isEmpty then .tooShort else .invalid)
  | digits =>
    match Text.boundedDigits Text.maxInt64 .tooLarge 0 digits with
    | .ok n => .ok (n, s.drop digits.length)
    | .error _ => .error .outOfRange

def numberWithin (width low high : Nat) (s : List Char) : Except ReadError (Nat × List Char) := do
  let (n, rest) ← number width (Text.trimStart s)
  if low ≤ n ∧ n ≤ high then pure (n, rest) else .error .outOfRange

def year (s : List Char) : Except ReadError (Int × List Char) := do
  let (n, rest) ← match Text.trimStart s with
    | '-' :: digits => (number digits.length digits).map fun (n, rest) => (-(n : Int), rest)
    | '+' :: digits => (number digits.length digits).map fun (n, rest) => ((n : Int), rest)
    | digits => (number 4 digits).map fun (n, rest) => ((n : Int), rest)
  if -(Text.maxInt32 : Int) - 1 ≤ n ∧ n ≤ Text.maxInt32 then pure (n, rest) else .error .outOfRange

def literal (c : Char) : List Char → Except ReadError (List Char)
  | [] => .error .tooShort
  | d :: rest => if d = c then .ok rest else .error .invalid

def separator (c : Char) (s : List Char) : Except ReadError (List Char) :=
  literal c (Text.trimStart s)

def readDate (s : List Char) : Except ReadError (Date × List Char) := do
  let (y, s) ← year s
  let s ← separator '-' s
  let (m, s) ← numberWithin 2 1 12 s
  let s ← separator '-' s
  let (d, s) ← numberWithin 2 1 31 s
  pure (⟨y, m, d⟩, s)

def fraction (s : List Char) : Except ReadError (Nat × List Char) :=
  match s with
  | '.' :: rest => do
    let (n, after) ← number 9 rest
    let width := rest.length - after.length
    pure (n * Nat.pow 10 (9 - width), after.dropWhile Char.isDigit)
  | _ => .ok (0, s)

/-- Seconds of the day and nanoseconds. Second 60 is a leap second. -/
def readClock (s : List Char) : Except ReadError ((Nat × Nat) × List Char) := do
  let (h, s) ← numberWithin 2 0 23 s
  let s ← separator ':' s
  let (m, s) ← numberWithin 2 0 59 s
  let s ← separator ':' s
  let (sec, s) ← numberWithin 2 0 60 s
  let (nano, s) ← fraction s
  let minute := 3600 * h + 60 * m
  -- A leap second belongs to the second before it.
  pure (if sec = 60 then (minute + 59, nano + 1000000000) else (minute + sec, nano),
    Text.trimStart s)

/-- The point in time `offset` seconds before a local date and time. -/
def resolve (date : Date) (clock : Nat × Nat) (offset : Int) : Except ReadError Instant :=
  if date.isValid ∧ offset.natAbs < 86400 then
    let total := date.number * 86400 + clock.1 - offset
    match Instant.make? (total / 86400) (total % 86400).toNat clock.2 with
    | some t => .ok t
    | none => .error .impossible
  else .error .outOfRange

def readBare (s : List Char) : Except ReadError Instant := do
  let (date, s) ← readDate s
  let s ← separator 'T' s
  let (clock, s) ← readClock s
  if s.isEmpty then resolve date clock 0 else .error .tooLong

def twoDigits (s : List Char) : Except ReadError ((Nat × Nat) × List Char) :=
  match s with
  | a :: b :: rest =>
    if a.isDigit ∧ b.isDigit then .ok ((a.toNat - 48, b.toNat - 48), rest) else .error .invalid
  | [a] => .error (if a.utf8Size < 2 then .tooShort else .invalid)
  | [] => .error .tooShort

def readDistance (negative : Bool) (s : List Char) : Except ReadError (Int × List Char) := do
  let ((h₁, h₂), s) ← twoDigits s
  let s := s.dropWhile fun c => c = ':' || Text.isBlank c
  let ((m₁, m₂), s) ← twoDigits s
  if 5 < m₁ then .error .outOfRange
  let seconds : Int := 3600 * (10 * h₁ + h₂) + 60 * (10 * m₁ + m₂)
  pure (if negative then -seconds else seconds, s)

/-- `Z`, `UTC` in any case, or a sign with hours and minutes; the sign may be U+2212. -/
def readZone (s : List Char) : Except ReadError (Int × List Char) :=
  if (s.take 3).map Char.toLower = ['u', 't', 'c'] then .ok (0, s.drop 3)
  else
    match s with
    | [] => .error .tooShort
    | c :: rest =>
      if c = 'Z' ∨ c = 'z' then .ok (0, rest)
      else if c = '+' then readDistance false rest
      else if c = '-' ∨ c.toNat = 0x2212 then readDistance true rest
      else .error .invalid

def dateTimeBreak : List Char → Except ReadError (List Char)
  | [] => .error .tooShort
  | c :: rest => if c = 'T' ∨ c = 't' ∨ c = ' ' then .ok rest else .error .invalid

def readZoned (s : List Char) : Except ReadError Instant := do
  let (date, s) ← readDate s
  let s ← dateTimeBreak s
  let (clock, s) ← readClock s
  let (offset, s) ← readZone s
  if (Text.trimStart s).isEmpty then resolve date clock offset else .error .tooLong

def bare (s : String) : Except String Instant := (readBare s.toList).mapError ReadError.message

def zoned (s : String) : Except String Instant := (readZoned s.toList).mapError ReadError.message

end SiteCache.Time
