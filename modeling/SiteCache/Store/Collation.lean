import SiteCache.Text.Utf8

/-!
The order of names and codes in listings: octets compared with ASCII letters folded. The comparison
looks no further than a NUL that both texts have in one place; from there on the shorter text comes
first.
-/

set_option autoImplicit false

namespace SiteCache.Store

def foldOctet (b : UInt8) : UInt8 := if 65 ≤ b ∧ b ≤ 90 then b + 32 else b

def compareFolded : List UInt8 → List UInt8 → Ordering
  | [], [] => .eq
  | [], _ :: _ => .lt
  | _ :: _, [] => .gt
  | a :: as, b :: bs =>
    if foldOctet a < foldOctet b then .lt
    else if foldOctet b < foldOctet a then .gt
    else if a = 0 then compare as.length bs.length
    else compareFolded as bs

def compareNoCase (a b : String) : Ordering := compareFolded (Text.octets a) (Text.octets b)

def eqNoCase (a b : String) : Bool := compareNoCase a b == .eq

end SiteCache.Store
