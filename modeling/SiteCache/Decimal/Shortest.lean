import SiteCache.Text.Decimal

set_option autoImplicit false

namespace SiteCache.Decimal

/-- A positive number `significand * 2 ^ exponent` of a binary format. The next number below is half
as far away as the next one above exactly when `narrowBelow`. -/
structure Binary where
  significand : Nat
  exponent : Int
  narrowBelow : Bool

structure Scaled where
  digits : Nat
  exponent : Int
  deriving DecidableEq, Repr

structure Ratio where
  num : Nat
  den : Nat

def Ratio.lt (a b : Ratio) : Bool := a.num * b.den < b.num * a.den

def Ratio.le (a b : Ratio) : Bool := a.num * b.den ≤ b.num * a.den

def Ratio.scale (n base : Nat) : Int → Ratio
  | .ofNat e => ⟨n * Nat.pow base e, 1⟩
  | .negSucc e => ⟨n, Nat.pow base (e + 1)⟩

def Ratio.distance (a b : Ratio) : Ratio :=
  let x := a.num * b.den
  let y := b.num * a.den
  ⟨(x - y) + (y - x), a.den * b.den⟩

def Binary.ratio (b : Binary) : Ratio := .scale b.significand 2 b.exponent

def Binary.upper (b : Binary) : Ratio := .scale (4 * b.significand + 2) 2 (b.exponent - 2)

def Binary.lower (b : Binary) : Ratio :=
  .scale (4 * b.significand - if b.narrowBelow then 1 else 2) 2 (b.exponent - 2)

def Binary.roundsHere (b : Binary) (x : Ratio) : Bool :=
  if b.significand % 2 = 0 then b.lower.le x && x.le b.upper else b.lower.lt x && x.lt b.upper

def leadingZeros (x : Ratio) : Nat → Nat
  | 0 => 0
  | fuel + 1 => if x.num ≥ x.den then 0 else leadingZeros ⟨10 * x.num, x.den⟩ fuel + 1

def Ratio.magnitude (x : Ratio) : Int :=
  if x.num ≥ x.den then ((Nat.toDigits 10 (x.num / x.den)).length : Int) - 1
  else -(leadingZeros x 400 : Int)

def Scaled.ratio (s : Scaled) : Ratio := .scale s.digits 10 s.exponent

def Ratio.floorOn (x : Ratio) (e : Int) : Nat :=
  match e with
  | .ofNat e => x.num / (x.den * Nat.pow 10 e)
  | .negSucc e => x.num * Nat.pow 10 (e + 1) / x.den

/-- The decimal with `count` digits nearest to `b`, if it rounds to `b`. -/
def Binary.onGrid? (b : Binary) (count : Nat) : Option Scaled :=
  let x := b.ratio
  let e := x.magnitude - count + 1
  let below : Scaled := ⟨x.floorOn e, e⟩
  let above : Scaled := ⟨x.floorOn e + 1, e⟩
  match b.roundsHere below.ratio, b.roundsHere above.ratio with
  | false, false => none
  | true, false => some below
  | false, true => some above
  | true, true =>
    if (x.distance above.ratio).lt (x.distance below.ratio) then some above
    else if (x.distance below.ratio).lt (x.distance above.ratio) then some below
    else some (if below.digits % 2 = 0 then below else above)

def Binary.shortest (b : Binary) : Scaled :=
  (((List.range 17).map (· + 1)).findSome? b.onGrid?).getD ⟨0, 0⟩

def hiddenBit : Nat := 4503599627370496

def Binary.ofBits (bits : UInt64) : Binary :=
  let fraction : Nat := bits.toNat % hiddenBit
  let biased : Nat := bits.toNat / hiddenBit % 2048
  if biased = 0 then ⟨fraction, -1074, false⟩
  else ⟨hiddenBit + fraction, (biased : Int) - 1075, fraction = 0 && biased > 1⟩

def dropTrailingZeros (digits : List Char) : List Char :=
  (digits.reverse.dropWhile (· = '0')).reverse

/-- How a decimal is laid out: positional while the exponent of its first digit lies between
`positionalFrom` and `positionalTo`, else with one digit before the point and a signed exponent of
at least two digits. -/
structure Layout where
  positionalFrom : Int
  positionalTo : Int

def Layout.positional (digits : List Char) (leading : Int) : List Char :=
  if leading < 0 then
    "0.".toList ++ List.replicate (-leading - 1).toNat '0' ++ digits
  else
    let whole := leading.toNat + 1
    let fraction := digits.drop whole
    digits.take whole ++ List.replicate (whole - digits.length) '0' ++
      '.' :: (if fraction.isEmpty then ['0'] else fraction)

def Layout.scientific (digits : List Char) (leading : Int) : List Char :=
  digits.take 1 ++ (if digits.length ≤ 1 then [] else '.' :: digits.drop 1) ++
    'e' :: (if leading < 0 then '-' else '+') :: Text.paddedDigits 2 leading.natAbs

def Layout.write (layout : Layout) (s : Scaled) : List Char :=
  let all := Nat.toDigits 10 s.digits
  let leading := s.exponent + all.length - 1
  let digits := dropTrailingZeros all
  if layout.positionalFrom ≤ leading ∧ leading ≤ layout.positionalTo then
    Layout.positional digits leading
  else
    Layout.scientific digits leading

def Layout.writeFloat (layout : Layout) (x : Float) : String :=
  let bits := x.toBits
  let magnitude := bits &&& 0x7FFFFFFFFFFFFFFF
  let unsigned :=
    if magnitude = 0 then "0.0".toList else layout.write (Binary.ofBits magnitude).shortest
  .ofList (if bits = magnitude then unsigned else '-' :: unsigned)

end SiteCache.Decimal
