import SiteCache.Proofs.Json.Grammar

set_option autoImplicit false

namespace SiteCache.Json

open Text (digitsOf)

def writtenNumeral (n : Int) : Numeral := ⟨decide (n < 0), digitsOf n.natAbs, none, none⟩

theorem digitsOf_spelled (negative : Bool) (n : Nat) :
    SpellsMagnitude negative (digitsOf n) ⟨negative, digitsOf n, none, none⟩ := by
  have leading (zero : (digitsOf n).head? = some '0') : digitsOf n = ['0'] := by
    obtain ⟨rest, written⟩ := List.head?_eq_some_iff.mp zero
    obtain ⟨-, rfl⟩ := Text.digitsOf_of_head written
    exact written
  have spelled : SpellsMagnitude negative (digitsOf n ++ ([] ++ [])) _ :=
    .intro ⟨Text.digitsOf_ne_nil n, Text.digits_digitsOf n⟩ leading .none .none
  rwa [List.append_nil, List.append_nil] at spelled

theorem signedDigits_spelled (n : Int) :
    Spells (Text.signedDigits n) (.value (.number (writtenNumeral n))) := by
  cases n with
  | ofNat n => exact .positive (digitsOf_spelled false n)
  | negSucc n =>
    rw [writtenNumeral, decide_eq_true (Int.negSucc_lt_zero n)]
    exact .negative (digitsOf_spelled true (n + 1))

theorem accumulate_of_digits {s : List Char} (limit value : Nat)
    (fits : Nat.ofDigitChars 10 s value ≤ limit) :
    accumulate limit value s = (Nat.ofDigitChars 10 s value, []) := by
  induction s generalizing value with
  | nil => rfl
  | cons c rest ih =>
    have zero : '0'.toNat = 48 := rfl
    rw [Nat.ofDigitChars_cons, zero] at fits ⊢
    have soFar := Text.le_ofDigitChars rest (10 * value + (c.toNat - 48))
    rw [accumulate, if_pos (Nat.le_trans soFar fits)]
    exact ih _ fits

theorem number?_writtenNumeral {n : Int} (low : -(Text.maxInt64 : Int) - 1 ≤ n)
    (high : n ≤ maxSignificand) : (writtenNumeral n).number? = some (.integer n) := by
  have bounds : Text.maxInt64 + 1 ≤ maxSignificand := by decide
  have value : accumulate maxSignificand 0 (digitsOf n.natAbs) = (n.natAbs, []) := by
    rw [accumulate_of_digits, Text.value_digitsOf]
    rw [Text.value_digitsOf]
    omega
  simp only [Numeral.number?, writtenNumeral, value]
  rw [if_pos]
  · by_cases negative : n < 0
    · simp only [negative, decide_true, if_true]
      rw [Int.ofNat_natAbs_of_nonpos (by omega), Int.neg_neg]
    · simp only [negative, decide_false, Bool.false_eq_true, if_false]
      rw [Int.natAbs_of_nonneg (by omega)]
  · refine ⟨rfl, rfl, ?_⟩
    rw [decide_eq_true_eq]
    omega

end SiteCache.Json
