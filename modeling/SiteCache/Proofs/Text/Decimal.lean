import Mathlib.Algebra.Group.Nat.Defs
import SiteCache.Text.Decimal

set_option autoImplicit false

namespace SiteCache.Text

abbrev Digits (s : List Char) : Prop := ∀ c ∈ s, c.isDigit = true

theorem exists_cons_of_digits {s : List Char} (digits : Digits s) (nonempty : s ≠ []) :
    ∃ c rest, s = c :: rest ∧ c.isDigit = true := by
  obtain ⟨c, rest, rfl⟩ := List.exists_cons_of_ne_nil nonempty
  exact ⟨c, rest, rfl, digits c List.mem_cons_self⟩

theorem digits_digitsOf (n : Nat) : Digits (digitsOf n) := fun _ member =>
  Nat.isDigit_of_mem_toDigits (by decide) (Nat.le_refl 10) member

theorem digitsOf_ne_nil (n : Nat) : digitsOf n ≠ [] := Nat.toDigits_ne_nil

@[simp] theorem value_digitsOf (n : Nat) : Nat.ofDigitChars 10 (digitsOf n) 0 = n :=
  Nat.ofDigitChars_ten_toDigits

theorem length_digitsOf_le {n width : Nat} (some_width : 0 < width) (fits : n < 10 ^ width) :
    (digitsOf n).length ≤ width :=
  (Nat.length_toDigits_le_iff (by decide) some_width).mpr fits

theorem digitsOf_of_head {n : Nat} {rest : List Char} (zero : digitsOf n = '0' :: rest) :
    n = 0 ∧ rest = [] := by
  induction n using Nat.strongRecOn generalizing rest with
  | _ n ih =>
    rw [digitsOf, Nat.toDigits_eq_if (by decide)] at zero
    split at zero <;> rename_i size
    · have digit := congrArg Char.toNat (List.cons.inj zero).1
      rw [Nat.toNat_digitChar_of_lt_ten size] at digit
      have value : n = 0 := Nat.add_left_cancel digit
      exact ⟨value, (List.cons.inj zero).2.symm⟩
    · -- The leading digit is that of a smaller number, which is not zero.
      obtain ⟨first, more, split⟩ := List.exists_cons_of_ne_nil (digitsOf_ne_nil (n / 10))
      rw [← digitsOf, split, List.cons_append] at zero
      have leading := (List.cons.inj zero).1
      subst leading
      have smaller := (ih (n / 10) (by omega) split).1
      omega

theorem length_paddedDigits {width n : Nat} (some_width : 0 < width) (fits : n < 10 ^ width) :
    (paddedDigits width n).length = width := by
  have short := length_digitsOf_le some_width fits
  rw [paddedDigits, List.length_append, List.length_replicate]
  omega

theorem digits_paddedDigits (width n : Nat) : Digits (paddedDigits width n) := by
  intro c member
  rcases List.mem_append.mp member with padding | digit
  · rw [List.eq_of_mem_replicate padding]
    rfl
  · exact digits_digitsOf n c digit

theorem paddedDigits_ne_nil (width n : Nat) : paddedDigits width n ≠ [] := by
  rw [paddedDigits, Ne, List.append_eq_nil_iff]
  exact fun both => digitsOf_ne_nil n both.2

@[simp] theorem value_paddedDigits (width n : Nat) :
    Nat.ofDigitChars 10 (paddedDigits width n) 0 = n := by
  rw [paddedDigits, Nat.ofDigitChars_append, Nat.ofDigitChars_replicate_zero, Nat.mul_zero,
    value_digitsOf]

theorem le_ofDigitChars (s : List Char) (value : Nat) : value ≤ Nat.ofDigitChars 10 s value := by
  induction s generalizing value with
  | nil => exact Nat.le_refl _
  | cons c rest ih =>
    rw [Nat.ofDigitChars_cons]
    have further := ih (10 * value + (c.toNat - '0'.toNat))
    omega

theorem boundedDigits_eq_ok {limit value : Nat} {overflow : NumeralError} {s : List Char} {n : Nat}
    (small : value ≤ limit) :
    boundedDigits limit overflow value s = .ok n ↔
      Digits s ∧ Nat.ofDigitChars 10 s value = n ∧ n ≤ limit := by
  induction s generalizing value with
  | nil =>
    simp only [boundedDigits, Nat.ofDigitChars_nil, Except.ok.injEq]
    constructor
    · rintro rfl
      exact ⟨List.forall_mem_nil _, rfl, small⟩
    · exact fun all => all.2.1
  | cons c rest ih =>
    rw [boundedDigits, Digits, List.forall_mem_cons, Nat.ofDigitChars_cons]
    by_cases digit : c.isDigit
    · by_cases further : 10 * value + (c.toNat - '0'.toNat) ≤ limit
      · simp only [digit, further, if_true, ih further, true_and, Digits]
      · -- The number only grows with the digits that follow.
        have grows := le_ofDigitChars rest (10 * value + (c.toNat - '0'.toNat))
        simp only [digit, further, if_true, if_false, reduceCtorEq, false_iff]
        rintro ⟨-, rfl, within⟩
        omega
    · simp [digit]

theorem boundedDigits_of_digits {s : List Char} (digits : Digits s) {limit : Nat}
    (overflow : NumeralError) (value : Nat) (fits : Nat.ofDigitChars 10 s value ≤ limit) :
    boundedDigits limit overflow value s = .ok (Nat.ofDigitChars 10 s value) := by
  have small := Nat.le_trans (le_ofDigitChars s value) fits
  exact (boundedDigits_eq_ok small).mpr ⟨digits, rfl, fits⟩

def Undigited (s : List Char) : Prop := ∀ c ∈ s.head?, c.isDigit = false

theorem Undigited.take {s : List Char} (ends : Undigited s) (n : Nat) : Undigited (s.take n) := by
  cases n with
  | zero => exact nofun
  | succ n => simpa [Undigited, List.head?_take] using ends

theorem takeWhile_digits {s rest : List Char} (digits : Digits s) (ends : Undigited rest) :
    (s ++ rest).takeWhile Char.isDigit = s := by
  rw [List.takeWhile_append_of_pos digits]
  cases rest with
  | nil => simp
  | cons c rest => simp [ends c rfl]

theorem dropWhile_digits {s rest : List Char} (digits : Digits s) (ends : Undigited rest) :
    (s ++ rest).dropWhile Char.isDigit = rest := by
  rw [List.dropWhile_append_of_pos digits]
  cases rest with
  | nil => simp
  | cons c rest => simp [ends c rfl]

end SiteCache.Text
