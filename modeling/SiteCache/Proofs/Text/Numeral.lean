import SiteCache.Proofs.Text.Blank
import SiteCache.Proofs.Text.Decimal

set_option autoImplicit false

namespace SiteCache.Text

inductive NatNumeral : List Char → Nat → Prop
  | plain {digits : List Char} : digits ≠ [] → Digits digits →
    NatNumeral digits (digitsValue digits)
  | plus {digits : List Char} : digits ≠ [] → Digits digits →
    NatNumeral ('+' :: digits) (digitsValue digits)

inductive IntNumeral : List Char → Int → Prop
  | unsigned {s : List Char} {n : Nat} : NatNumeral s n → IntNumeral s n
  | minus {digits : List Char} : digits ≠ [] → Digits digits →
    IntNumeral ('-' :: digits) (-(digitsValue digits : Int))

theorem map_eq_ok {α β : Type} {f : α → β} {answer : Except NumeralError α} {b : β} :
    answer.map f = .ok b ↔ ∃ a, answer = .ok a ∧ f a = b := by
  cases answer <;> simp [Except.map]

theorem toOption_eq_some {α : Type} {answer : Except NumeralError α} {a : α} :
    answer.toOption = some a ↔ answer = .ok a := by
  cases answer <;> simp [Except.toOption]

theorem readNat_of_plain {limit : Nat} {c : Char} {rest : List Char} (plain : c ≠ '+') :
    readNat limit (c :: rest) = boundedDigits limit .tooLarge 0 (c :: rest) := by
  unfold readNat
  split <;> simp_all

theorem readNat_of_plus {limit : Nat} {digits : List Char} (nonempty : digits ≠ []) :
    readNat limit ('+' :: digits) = boundedDigits limit .tooLarge 0 digits := by
  unfold readNat
  split <;> simp_all

theorem readNat_eq_ok {limit : Nat} {s : List Char} {n : Nat} :
    readNat limit s = .ok n ↔ NatNumeral s n ∧ n ≤ limit := by
  constructor
  · intro read
    cases s with
    | nil => cases read
    | cons c rest =>
      by_cases sign : c = '+'
      · subst sign
        have nonempty : rest ≠ [] := by
          rintro rfl
          cases read
        rw [readNat_of_plus nonempty, boundedDigits_eq_ok (Nat.zero_le _)] at read
        obtain ⟨digits, rfl, within⟩ := read
        exact ⟨.plus nonempty digits, within⟩
      · rw [readNat_of_plain sign, boundedDigits_eq_ok (Nat.zero_le _)] at read
        obtain ⟨digits, rfl, within⟩ := read
        exact ⟨.plain (List.cons_ne_nil c rest) digits, within⟩
  · rintro ⟨numeral, within⟩
    cases numeral with
    | plus nonempty digits =>
      rw [readNat_of_plus nonempty, boundedDigits_eq_ok (Nat.zero_le _)]
      exact ⟨digits, rfl, within⟩
    | plain nonempty digits =>
      obtain ⟨c, rest, rfl, digit⟩ := exists_cons_of_digits digits nonempty
      have sign : c ≠ '+' := by
        rintro rfl
        cases digit
      rw [readNat_of_plain sign, boundedDigits_eq_ok (Nat.zero_le _)]
      exact ⟨digits, rfl, within⟩

theorem readInt_of_unsigned {limit : Nat} {s : List Char} (unsigned : s.head? ≠ some '-') :
    readInt limit s = (readNat limit s).map fun n : Nat => (n : Int) := by
  unfold readInt
  split
  case h_4 => simp at unsigned
  case h_1 | h_2 | h_3 => simp_all [readNat, Except.map]
  case h_5 digits nonempty =>
    rw [readNat_of_plus (by simpa using nonempty)]
    cases boundedDigits limit .tooLarge 0 digits <;> rfl
  case h_6 nonempty _ _ _ unsigned =>
    obtain ⟨c, rest, rfl⟩ := List.exists_cons_of_ne_nil nonempty
    rw [readNat_of_plain (by simpa using unsigned)]
    cases boundedDigits limit .tooLarge 0 (c :: rest) <;> rfl

theorem readInt_of_minus {limit : Nat} {digits : List Char} (nonempty : digits ≠ []) :
    readInt limit ('-' :: digits) =
      (boundedDigits (limit + 1) .tooSmall 0 digits).map fun n : Nat => -(n : Int) := by
  rw [readInt]
  · cases boundedDigits (limit + 1) .tooSmall 0 digits <;> rfl
  · simpa using nonempty

theorem NatNumeral.head {s : List Char} {n : Nat} (numeral : NatNumeral s n) :
    s.head? ≠ some '-' := by
  cases numeral with
  | plus _ _ => simp
  | plain nonempty digits =>
    obtain ⟨c, rest, rfl, digit⟩ := exists_cons_of_digits digits nonempty
    rintro ⟨⟩
    cases digit

theorem readInt_eq_ok {limit : Nat} {s : List Char} {n : Int} :
    readInt limit s = .ok n ↔ IntNumeral s n ∧ -(limit : Int) - 1 ≤ n ∧ n ≤ limit := by
  by_cases sign : s.head? = some '-'
  · obtain ⟨digits, rfl⟩ := List.head?_eq_some_iff.mp sign
    constructor
    · intro read
      have nonempty : digits ≠ [] := by
        rintro rfl
        cases read
      rw [readInt_of_minus nonempty] at read
      obtain ⟨value, bounded, rfl⟩ := map_eq_ok.mp read
      obtain ⟨all, rfl, within⟩ := (boundedDigits_eq_ok (Nat.zero_le _)).mp bounded
      exact ⟨.minus nonempty all, by omega, by omega⟩
    · rintro ⟨numeral, least, -⟩
      cases numeral with
      | unsigned numeral => exact absurd sign numeral.head
      | minus nonempty all =>
        rw [readInt_of_minus nonempty, map_eq_ok]
        refine ⟨digitsValue digits, (boundedDigits_eq_ok (Nat.zero_le _)).mpr ?_, rfl⟩
        exact ⟨all, rfl, by omega⟩
  · rw [readInt_of_unsigned sign]
    constructor
    · intro read
      obtain ⟨value, unsigned, rfl⟩ := map_eq_ok.mp read
      obtain ⟨numeral, within⟩ := readNat_eq_ok.mp unsigned
      exact ⟨.unsigned numeral, by omega, by omega⟩
    · rintro ⟨numeral, -, most⟩
      cases numeral with
      | minus => exact absurd rfl sign
      | unsigned numeral =>
        exact map_eq_ok.mpr ⟨_, readNat_eq_ok.mpr ⟨numeral, by omega⟩, rfl⟩

theorem map_readNat_eq_ok {α : Type} {limit : Nat} {ofNat : Nat → α} {toNat : α → Nat}
    {s : List Char} {a : α} (small : ∀ a, toNat a ≤ limit)
    (exact : ∀ n ≤ limit, toNat (ofNat n) = n) (same : ∀ a, ofNat (toNat a) = a) :
    (readNat limit s).map ofNat = .ok a ↔ NatNumeral s (toNat a) := by
  rw [map_eq_ok]
  constructor
  · rintro ⟨n, read, rfl⟩
    obtain ⟨numeral, within⟩ := readNat_eq_ok.mp read
    rwa [exact n within]
  · exact fun numeral => ⟨toNat a, readNat_eq_ok.mpr ⟨numeral, small a⟩, same a⟩

theorem readUInt32_eq_ok {s : List Char} {n : UInt32} :
    readUInt32 s = .ok n ↔ NatNumeral s n.toNat :=
  map_readNat_eq_ok (fun n => Nat.le_sub_one_of_lt n.toNat_lt)
    (fun _ small => UInt32.toNat_ofNat_of_lt' (Nat.lt_succ_of_le small)) fun n => n.ofNat_toNat

theorem readUInt64_eq_ok {s : List Char} {n : UInt64} :
    readUInt64 s = .ok n ↔ NatNumeral s n.toNat :=
  map_readNat_eq_ok (fun n => Nat.le_sub_one_of_lt n.toNat_lt)
    (fun _ small => UInt64.toNat_ofNat_of_lt' (Nat.lt_succ_of_le small)) fun n => n.ofNat_toNat

theorem readInt64_eq_ok {s : List Char} {n : Int64} :
    readInt64 s = .ok n ↔ IntNumeral s n.toInt := by
  rw [readInt64, map_eq_ok]
  constructor
  · rintro ⟨value, read, rfl⟩
    obtain ⟨numeral, least, most⟩ := readInt_eq_ok.mp read
    simp only [maxInt64] at least most
    rwa [Int64.toInt_ofInt_of_le (by omega) (by omega)]
  · intro numeral
    have least := n.le_toInt
    have most := n.toInt_lt
    refine ⟨n.toInt, readInt_eq_ok.mpr ⟨numeral, ?_, ?_⟩, n.ofInt_toInt⟩ <;>
      simp only [maxInt64] <;> omega

theorem natNumeral_digitsOf (n : Nat) : NatNumeral (digitsOf n) n := by
  simpa [digitsValue] using NatNumeral.plain (digitsOf_ne_nil n) (digits_digitsOf n)

theorem intNumeral_signedDigits (n : Int) : IntNumeral (signedDigits n) n := by
  cases n with
  | ofNat n => exact .unsigned (natNumeral_digitsOf n)
  | negSucc n =>
    have minus := IntNumeral.minus (digitsOf_ne_nil (n + 1)) (digits_digitsOf (n + 1))
    rwa [digitsValue, value_digitsOf] at minus

theorem IntNumeral.digit_or_sign {s : List Char} {n : Int} (numeral : IntNumeral s n) :
    ∀ c ∈ s, c.isDigit = true ∨ c = '+' ∨ c = '-' := by
  rcases numeral with (⟨-, all⟩ | ⟨-, all⟩) | ⟨-, all⟩
  · exact fun c member => .inl (all c member)
  · exact List.forall_mem_cons.mpr ⟨.inr (.inl rfl), fun c member => .inl (all c member)⟩
  · exact List.forall_mem_cons.mpr ⟨.inr (.inr rfl), fun c member => .inl (all c member)⟩

theorem IntNumeral.not_blank {s : List Char} {n : Int} (numeral : IntNumeral s n) :
    ∀ c ∈ s, isBlank c = false := by
  intro c member
  rcases numeral.digit_or_sign c member with digit | rfl | rfl
  · exact not_blank_of_digit digit
  · rfl
  · rfl

theorem IntNumeral.bare {s : List Char} {n : Int} (numeral : IntNumeral s n) : Bare s :=
  ⟨fun c first => numeral.not_blank c (List.mem_of_head? first),
    fun c last => numeral.not_blank c (List.mem_of_getLast? last)⟩

theorem IntNumeral.ne_nil {s : List Char} {n : Int} (numeral : IntNumeral s n) : s ≠ [] := by
  rcases numeral with (⟨nonempty, -⟩ | ⟨-, -⟩) | ⟨-, -⟩ <;> simp [*]

end SiteCache.Text
