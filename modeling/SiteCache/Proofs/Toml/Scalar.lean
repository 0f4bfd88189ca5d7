import SiteCache.Proofs.Text.Decimal
import SiteCache.Toml.Scalar

set_option autoImplicit false

namespace SiteCache.Toml

open Text (digitsOf Digits Undigited)

def Follows (s : List Char) : Prop := ∀ c ∈ s.head?, c = '\n' ∨ c = ',' ∨ c = ']'

theorem Follows.undigited {s : List Char} (follows : Follows s) : Undigited s := by
  intro c first
  rcases follows c first with rfl | rfl | rfl <;> rfl

section

variable {s rest : List Char}

theorem readDigits_of_digits (digits : Digits s) (follows : Follows rest) :
    readDigits Char.isDigit (s ++ rest) = (s, rest) := by
  induction s with
  | nil =>
    cases rest with
    | nil => rfl
    | cons c rest => rcases follows c rfl with rfl | rfl | rfl <;> rfl
  | cons c s ih =>
    obtain ⟨digit, digits⟩ := List.forall_mem_cons.mp digits
    rw [List.cons_append, readDigits, if_pos digit, ih digits]

-- A numeral that begins with a zero has no other digit.
theorem rest_of_zero {n : Nat} {t : List Char} (zero : digitsOf n ++ rest = '0' :: t) :
    digitsOf n = ['0'] ∧ rest = t := by
  obtain ⟨c, more, written, -⟩ :=
    Text.exists_cons_of_digits (Text.digits_digitsOf n) (Text.digitsOf_ne_nil n)
  rw [written, List.cons_append] at zero
  obtain ⟨rfl, tail⟩ := List.cons.inj zero
  obtain ⟨-, rfl⟩ := Text.digitsOf_of_head written
  exact ⟨written, tail⟩

theorem readWhole_digitsOf (n : Nat) (follows : Follows rest) :
    readWhole (digitsOf n ++ rest) = some (digitsOf n, rest) := by
  obtain ⟨c, more, written, digit⟩ :=
    Text.exists_cons_of_digits (Text.digits_digitsOf n) (Text.digitsOf_ne_nil n)
  unfold readWhole
  split <;> rename_i same
  · obtain ⟨zero, rfl⟩ := rest_of_zero same
    rw [zero]
  · have first : (digitsOf n ++ rest).head?.any Char.isDigit = true := by
      rw [written]
      exact digit
    rw [someDigits, if_pos first, readDigits_of_digits (Text.digits_digitsOf n) follows]

theorem hexValue?_of_digit {c : Char} (digit : c.isDigit) :
    Text.hexValue? c = some (c.toNat - '0'.toNat) := by
  simp only [Char.isDigit, Bool.and_eq_true, decide_eq_true_eq] at digit
  have range : '0' ≤ c ∧ c ≤ '9' := digit
  rw [Text.hexValue?, if_pos range]
  rfl

theorem radixValue_of_digits (digits : Digits s) :
    radixValue 10 s = Nat.ofDigitChars 10 s 0 := by
  have step (value : Nat) : s.foldl (fun value c => 10 * value + (Text.hexValue? c).getD 0) value =
      Nat.ofDigitChars 10 s value := by
    induction s generalizing value with
    | nil => rfl
    | cons c s ih =>
      obtain ⟨digit, digits⟩ := List.forall_mem_cons.mp digits
      rw [List.foldl_cons, ih digits, hexValue?_of_digit digit, Nat.ofDigitChars_cons]
      rfl
  exact step 0

-- Digits with a mark behind them, as in dates and times, are no numeral.
theorem readMark_of_field (mark : Char) (symbol : mark.isDigit = false)
    (other : mark ≠ '\n' ∧ mark ≠ ',' ∧ mark ≠ ']') (digits : Digits s) (follows : Follows rest)
    {width low high value : Nat} {t : List Char}
    (found : readField width low high (s ++ rest) = some (value, t)) : readMark mark t = none := by
  cases t with
  | nil => rfl
  | cons c t =>
    refine if_neg ?_
    rintro rfl
    simp only [readField] at found
    split at found <;> rename_i field
    · simp only [Option.some.injEq, Prod.mk.injEq] at found
      have front : Digits ((s ++ rest).take width) := by simpa using field.2.1
      have ends : Undigited (c :: t) := by
        rintro d ⟨⟩
        exact symbol
      have behind := Text.dropWhile_digits front ends
      rw [← found.2, List.take_append_drop, Text.dropWhile_digits digits follows.undigited,
        found.2] at behind
      have clash := follows c (by rw [behind]; rfl)
      simp [other] at clash
    · cases found

theorem readField_minus {width : Nat} (wide : 0 < width) (low high : Nat) :
    readField width low high ('-' :: s) = none := by
  obtain ⟨width, rfl⟩ := Nat.exists_eq_succ_of_ne_zero (Nat.ne_of_gt wide)
  refine if_neg fun field => ?_
  have minus : Char.isDigit '-' := List.all_eq_true.mp field.2.1 '-' (by simp)
  cases minus

theorem readMoment_of_digits (digits : Digits s) (follows : Follows rest) :
    readMoment (s ++ rest) = none := by
  have date : readDate (s ++ rest) = none := by
    rw [readDate]
    cases field : readField 4 0 9999 (s ++ rest) with
    | none => rfl
    | some result =>
      have mark := readMark_of_field '-' rfl (by decide) digits follows field
      simp [mark]
  have clock : readClock (s ++ rest) = none := by
    rw [readClock]
    cases field : readField 2 0 23 (s ++ rest) with
    | none => rfl
    | some result =>
      have mark := readMark_of_field ':' rfl (by decide) digits follows field
      simp [mark]
  rw [readMoment, date, clock]
  rfl

theorem readMoment_minus : readMoment ('-' :: s) = none := by
  rw [readMoment, readDate, readClock, readField_minus (by decide), readField_minus (by decide)]
  rfl

theorem readFraction_none (follows : Follows rest) : readFraction rest = none := by
  cases rest with
  | nil => rfl
  | cons c rest => rcases follows c rfl with rfl | rfl | rfl <;> rfl

theorem readExponent_none (follows : Follows rest) : readExponent rest = none := by
  cases rest with
  | nil => rfl
  | cons c rest => rcases follows c rfl with rfl | rfl | rfl <;> rfl

theorem readWord_digitsOf {word : String} {first : Char} {more : List Char}
    (letters : word.toList = first :: more) (letter : first.isDigit = false) (n : Nat) :
    readWord word (digitsOf n ++ rest) = none := by
  obtain ⟨c, tail, written, digit⟩ :=
    Text.exists_cons_of_digits (Text.digits_digitsOf n) (Text.digitsOf_ne_nil n)
  have other : first ≠ c := by
    rintro rfl
    rw [letter] at digit
    cases digit
  refine if_neg ?_
  simp [letters, written, other]

theorem readFloat_none {negative : Bool} {n : Nat}
    (sign : readSign s = (negative, digitsOf n ++ rest)) (follows : Follows rest) :
    readFloat s = none := by
  have numeral : readNumeral s = none := by
    rw [readNumeral, sign]
    simp [readWhole_digitsOf n follows, readFraction_none follows, readExponent_none follows]
  have infinite : readWord "inf" (digitsOf n ++ rest) = none :=
    readWord_digitsOf rfl rfl n
  have undefined_ : readWord "nan" (digitsOf n ++ rest) = none :=
    readWord_digitsOf rfl rfl n
  simp only [readFloat, numeral, sign, infinite, undefined_]
  rfl

theorem readSign_digitsOf (n : Nat) :
    readSign (digitsOf n ++ rest) = (false, digitsOf n ++ rest) := by
  obtain ⟨c, more, written, digit⟩ :=
    Text.exists_cons_of_digits (Text.digits_digitsOf n) (Text.digitsOf_ne_nil n)
  rw [written, List.cons_append]
  unfold readSign
  split <;> rename_i same
  · rw [(List.cons.inj same).1] at digit
    cases digit
  · rw [(List.cons.inj same).1] at digit
    cases digit
  · rfl

theorem readSign_minus (n : Nat) :
    readSign ('-' :: digitsOf n ++ rest) = (true, digitsOf n ++ rest) := rfl

theorem readWholeNumber_of_sign {negative : Bool} {n : Nat}
    (sign : readSign s = (negative, digitsOf n ++ rest)) (follows : Follows rest)
    (decimal : ∀ c t, s = '0' :: c :: t → c ≠ 'x' ∧ c ≠ 'o' ∧ c ≠ 'b') :
    readWholeNumber s = some (if negative then -(n : Int) else n, rest) := by
  have value : radixValue 10 (digitsOf n) = n := by
    rw [radixValue_of_digits (Text.digits_digitsOf n), Text.value_digitsOf]
  unfold readWholeNumber
  split
  · exact absurd rfl (decimal _ _ rfl).1
  · exact absurd rfl (decimal _ _ rfl).2.1
  · exact absurd rfl (decimal _ _ rfl).2.2
  · simp only [sign, readWhole_digitsOf n follows, Option.map_some, value]

theorem readWholeNumber_signedDigits (n : Int) (follows : Follows rest) :
    readWholeNumber (Text.signedDigits n ++ rest) = some (n, rest) := by
  cases n with
  | ofNat n =>
    refine readWholeNumber_of_sign (readSign_digitsOf n) follows fun c t same => ?_
    obtain ⟨-, rfl⟩ := rest_of_zero same
    rcases follows c rfl with rfl | rfl | rfl <;> decide
  | negSucc n =>
    refine readWholeNumber_of_sign (readSign_minus (n + 1)) follows fun c t same => ?_
    have clash : '-' = '0' := (List.cons.inj same).1
    cases clash

theorem readScalar_signedDigits {n : Int} (low : -(Text.maxInt64 : Int) - 1 ≤ n)
    (high : n ≤ Text.maxInt64) (follows : Follows rest) :
    readScalar (Text.signedDigits n ++ rest) = some (.integer (Int64.ofInt n), rest) := by
  have whole : readInteger (Text.signedDigits n ++ rest) =
      some (.integer (Int64.ofInt n), rest) := by
    rw [readInteger, readWholeNumber_signedDigits n follows]
    exact if_pos ⟨low, high⟩
  have moment : readMoment (Text.signedDigits n ++ rest) = none := by
    cases n with
    | ofNat n => exact readMoment_of_digits (Text.digits_digitsOf n) follows
    | negSucc n => exact readMoment_minus
  have float : readFloat (Text.signedDigits n ++ rest) = none := by
    cases n with
    | ofNat n => exact readFloat_none (readSign_digitsOf n) follows
    | negSucc n => exact readFloat_none (readSign_minus (n + 1)) follows
  rw [readScalar, moment, float, whole]
  rfl

end

end SiteCache.Toml
