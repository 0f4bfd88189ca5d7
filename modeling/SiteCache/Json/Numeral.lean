import SiteCache.Text.Decimal

set_option autoImplicit false

namespace SiteCache.Json

structure Numeral where
  negative : Bool
  whole : List Char
  fraction : Option (List Char)
  exponent : Option (Bool × List Char)
  deriving DecidableEq, Repr

inductive Number where
  | integer (n : Int)
  | float (x : Float)

def maxSignificand : Nat := UInt64.size - 1

def accumulate (limit significand : Nat) : List Char → Nat × List Char
  | [] => (significand, [])
  | c :: rest =>
    let next := 10 * significand + (c.toNat - 48)
    if next ≤ limit then accumulate limit next rest else (significand, c :: rest)

def divideByPower (x : Float) (e : Nat) : Float :=
  if e ≤ 308 then x / Float.ofScientific 1 false e
  else if x == 0 then x
  else divideByPower (x / Float.ofScientific 1 false 308) (e - 308)
termination_by e

def scaled? (significand : Nat) (e : Int) : Option Float :=
  let x := (UInt64.ofNat significand).toFloat
  if e < 0 then some (divideByPower x e.natAbs)
  else if e ≤ 308 then
    let y := x * Float.ofScientific 1 false e.natAbs
    if y.isInf then none else some y
  else if x == 0 then some x
  else none

def Numeral.float? (n : Numeral) (significand : Nat) (e : Int) : Option Float :=
  let magnitude? :=
    match n.exponent with
    | none => scaled? significand e
    | some (negative, digits) =>
      let (value, left) := accumulate Text.maxInt32 0 digits
      if left.isEmpty then scaled? significand (if negative then e - value else e + value)
      else if negative || significand == 0 then some 0
      else none
  magnitude?.map fun x => if n.negative then -x else x

def Numeral.number? (n : Numeral) : Option Number :=
  let (significand, left) := accumulate maxSignificand 0 n.whole
  match n.fraction with
  | some digits =>
    let (significand, leftAfter) := accumulate maxSignificand significand digits
    (n.float? significand (left.length - (digits.length - leftAfter.length : Nat))).map .float
  | none =>
    -- Minus zero is no integer, and the smallest one has no positive counterpart.
    if n.exponent.isNone ∧ left.isEmpty ∧
        (¬n.negative ∨ 0 < significand ∧ significand ≤ Text.maxInt64 + 1) then
      some (.integer (if n.negative then -significand else significand))
    else
      (n.float? significand left.length).map .float

end SiteCache.Json
