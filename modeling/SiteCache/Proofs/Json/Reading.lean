import SiteCache.Proofs.Json.Grammar

set_option autoImplicit false

namespace SiteCache.Json

open Text (Digits Undigited)

theorem readLiteral_plain {c : Char} (quote : c ≠ '"') (backslash : c ≠ '\\')
    (plain : ¬c.toNat < 0x20) (rest : List Char) :
    readLiteral (c :: rest) = Literal.cons (.char c) (readLiteral rest) := by
  simp [readLiteral, backslash, plain]

theorem readLiteral_short {e c : Char} (letter : e ≠ 'u') (short : shortEscape? e = some c)
    (rest : List Char) :
    readLiteral ('\\' :: e :: rest) = Literal.cons (.char c) (readLiteral rest) := by
  simp [readLiteral, letter, short]

theorem readLiteral_pieces {s : List Char} {pieces : List Piece} (spelled : SpellsPieces s pieces)
    (rest : List Char) : readLiteral (s ++ '"' :: rest) = (⟨pieces, .closed⟩, rest) := by
  induction spelled with
  | nil => rfl
  | char quote backslash plain _ ih =>
    rw [List.cons_append, readLiteral_plain quote backslash plain, ih]
    rfl
  | @short e _ _ _ short _ ih =>
    have letter : e ≠ 'u' := by
      rintro rfl
      cases short
    rw [List.cons_append, List.cons_append, readLiteral_short letter short, ih]
    rfl
  | number number _ ih =>
    simp only [List.cons_append, readLiteral, number, ih]
    rfl

section

variable {rest : List Char}

def Unnumbered (s : List Char) : Prop :=
  Undigited s ∧ ∀ c ∈ s.head?, c ≠ '.' ∧ c ≠ 'e' ∧ c ≠ 'E'

theorem readDigits_of_digits {s rest : List Char} (some_digit : s ≠ []) (digits : Digits s)
    (ends : Undigited rest) : readDigits (s ++ rest) = .ok (s, rest) := by
  rw [readDigits, Text.takeWhile_digits digits ends, Text.dropWhile_digits digits ends]
  cases s with
  | nil => exact absurd rfl some_digit
  | cons c s => rfl

theorem readWhole_run {s : List Char} (run : DigitRun s)
    (leading : s.head? = some '0' → s = ['0']) (ends : Undigited rest) :
    readWhole (s ++ rest) = .ok (s, rest) := by
  unfold readWhole
  split <;> rename_i same
  · obtain ⟨d, more, rfl⟩ := List.exists_cons_of_ne_nil run.1
    obtain ⟨rfl, tail⟩ := List.cons.inj same
    obtain ⟨-, rfl⟩ := List.cons.inj (leading rfl)
    obtain rfl : rest = _ := tail
    rw [if_neg (by simp [ends _ rfl])]
  · exact readDigits_of_digits run.1 run.2 ends

theorem SpellsExponent.ends {s : List Char} {power : Option (Bool × List Char)}
    (spelled : SpellsExponent s power) (ends : Unnumbered rest) :
    Undigited (s ++ rest) ∧ ∀ c ∈ (s ++ rest).head?, c ≠ '.' := by
  cases spelled with
  | none => exact ⟨ends.1, fun c first => (ends.2 c first).1⟩
  | some letter signed run =>
    rcases letter with rfl | rfl
    all_goals
      constructor
      · rintro _ ⟨⟩
        rfl
      · rintro _ ⟨⟩
        decide

theorem SpellsFraction.ends {s : List Char} {digits : Option (List Char)}
    (spelled : SpellsFraction s digits) (ends : Undigited rest) : Undigited (s ++ rest) := by
  cases spelled with
  | none => exact ends
  | some run =>
    rintro _ ⟨⟩
    rfl

theorem readFraction_spelled {s : List Char} {digits : Option (List Char)}
    (spelled : SpellsFraction s digits) (ends : Undigited rest)
    (point : ∀ c ∈ rest.head?, c ≠ '.') : readFraction (s ++ rest) = .ok (digits, rest) := by
  cases spelled with
  | none =>
    rw [List.nil_append]
    unfold readFraction
    split
    · exact absurd rfl (point _ rfl)
    · rfl
  | some run =>
    rw [List.cons_append, readFraction, readDigits_of_digits run.1 run.2 ends]
    rfl

theorem readExponent_none {rest : List Char} (ends : Unnumbered rest) :
    readExponent rest = .ok (none, rest) := by
  unfold readExponent
  dsimp only
  split
  · exact absurd rfl (ends.2 _ rfl).2.1
  · exact absurd rfl (ends.2 _ rfl).2.2
  · rfl

theorem readExponent_spelled {s : List Char} {power : Option (Bool × List Char)}
    (spelled : SpellsExponent s power) (ends : Unnumbered rest) :
    readExponent (s ++ rest) = .ok (power, rest) := by
  cases spelled with
  | none => exact readExponent_none ends
  | @some e sign digits negative letter signed run =>
    have read := readDigits_of_digits run.1 run.2 ends.1
    obtain ⟨d, more, rfl, digit⟩ := Text.exists_cons_of_digits run.2 run.1
    have plus : d ≠ '+' := by
      rintro rfl
      cases digit
    have minus : d ≠ '-' := by
      rintro rfl
      cases digit
    rw [List.cons_append] at read
    rcases letter with rfl | rfl <;> cases signed <;>
      simp [readExponent, read, plus, minus, Except.map]

theorem readNumeral_spelled {negative : Bool} {s : List Char} {n : Numeral}
    (spelled : SpellsMagnitude negative s n) (ends : Unnumbered rest) :
    readNumeral negative (s ++ rest) = ⟨.number n, some rest⟩ := by
  obtain ⟨run, leading, fractional, exponential⟩ := spelled
  obtain ⟨undigited, point⟩ := exponential.ends ends
  have first := fractional.ends undigited
  rw [List.append_assoc, List.append_assoc]
  simp only [readNumeral, readWhole_run run leading first, bind, Except.bind,
    readFraction_spelled fractional undigited point, readExponent_spelled exponential ends]
  rfl

end

theorem readValue_skipSpace (fuel : Nat) (s : List Char) :
    readValue fuel (skipSpace s) = readValue fuel s := by
  cases fuel with
  | zero => rfl
  | succ fuel => rw [readValue, readValue, skipSpace_skipSpace]

theorem readItems_skipSpace (fuel : Nat) (s : List Char) :
    readItems fuel (skipSpace s) = readItems fuel s := by
  cases fuel with
  | zero => rfl
  | succ fuel => rw [readItems, readItems, readValue_skipSpace]

theorem readMembers_skipSpace (fuel : Nat) (s : List Char) :
    readMembers fuel (skipSpace s) = readMembers fuel s := by
  cases fuel with
  | zero => rfl
  | succ fuel => rw [readMembers, readMembers, readValue_skipSpace]

def Follows (s : List Char) : Prop := ∀ c ∈ s.head?, c = ',' ∨ c = ':' ∨ c = ']' ∨ c = '\x7d'

theorem Follows.unspaced {s : List Char} (follows : Follows s) : skipSpace s = s := by
  cases s with
  | nil => rfl
  | cons c s =>
    rcases follows c rfl with rfl | rfl | rfl | rfl <;> rfl

theorem Follows.unnumbered {s spaces : List Char} (follows : Follows s) (blank : Spaces spaces) :
    Unnumbered (spaces ++ s) := by
  have first : ∀ c ∈ (spaces ++ s).head?,
      isSpace c = true ∨ c = ',' ∨ c = ':' ∨ c = ']' ∨ c = '\x7d' := by
    intro c first
    cases spaces with
    | nil => exact .inr (follows c first)
    | cons d spaces =>
      cases first
      exact .inl (blank _ List.mem_cons_self)
  constructor
  · intro c among
    rcases first c among with space | rfl | rfl | rfl | rfl
    · simp only [isSpace, Bool.or_eq_true, decide_eq_true_eq] at space
      rcases space with ((rfl | rfl) | rfl) | rfl <;> rfl
    all_goals rfl
  · intro c among
    rcases first c among with space | rfl | rfl | rfl | rfl
    · refine ⟨?_, ?_, ?_⟩ <;> (rintro rfl; cases space)
    all_goals decide

section

variable {fuel : Nat} {rest : List Char}

theorem readValue_digit {c : Char} (digit : c.isDigit = true) (s : List Char) :
    readValue (fuel + 1) (c :: s) = readNumeral false (c :: s) := by
  -- No value of another kind begins with a digit.
  have other {d : Char} (letter : d.isDigit = false) : c ≠ d := by
    rintro rfl
    cases digit.symm.trans letter
  have quote : c ≠ '"' := other rfl
  have bracket : c ≠ '[' := other rfl
  have brace : c ≠ '\x7b' := other rfl
  have null : c ≠ 'n' := other rfl
  have true_ : c ≠ 't' := other rfl
  have false_ : c ≠ 'f' := other rfl
  have minus : c ≠ '-' := other rfl
  simp [readValue, skipSpace_of_opens (opens_of_digit digit), digit]

theorem readValue_string {s : List Char} {pieces : List Piece} (spelled : SpellsPieces s pieces) :
    readValue (fuel + 1) ('"' :: (s ++ '"' :: rest)) = ⟨.string ⟨pieces, .closed⟩, some rest⟩ := by
  have start : skipSpace ('"' :: (s ++ '"' :: rest)) = '"' :: (s ++ '"' :: rest) := rfl
  simp [readValue, start, readString, readLiteral_pieces spelled rest]

theorem readValue_emptyArray {s : List Char} (stop : skipSpace s = ']' :: rest) :
    readValue (fuel + 1) ('[' :: s) = ⟨.array [] none, some rest⟩ := by
  have start : skipSpace ('[' :: s) = '[' :: s := rfl
  simp [readValue, start, stop]

theorem readValue_emptyObject {s : List Char} (stop : skipSpace s = '\x7d' :: rest) :
    readValue (fuel + 1) ('\x7b' :: s) = ⟨.object [] none, some rest⟩ := by
  have start : skipSpace ('\x7b' :: s) = '\x7b' :: s := rfl
  simp [readValue, start, stop]

theorem readValue_array {s t : List Char} {c : Char} (first : skipSpace s = c :: t)
    (opens : Opens c) {items : List Node} {ending : Option Fault} {after : Option (List Char)}
    (read : readItems fuel s = (items, ending, after)) :
    readValue (fuel + 1) ('[' :: s) = ⟨.array items ending, after⟩ := by
  have start : skipSpace ('[' :: s) = '[' :: s := rfl
  rw [← readItems_skipSpace, first] at read
  simp [readValue, start, first, opens.2.1, read]

theorem readValue_object {s t : List Char} {c : Char} (first : skipSpace s = c :: t)
    (opens : Opens c) {members : List (Node × Node)} {ending : Option Fault}
    {after : Option (List Char)} (read : readMembers fuel s = (members, ending, after)) :
    readValue (fuel + 1) ('\x7b' :: s) = ⟨.object members ending, after⟩ := by
  have start : skipSpace ('\x7b' :: s) = '\x7b' :: s := rfl
  rw [← readMembers_skipSpace, first] at read
  simp [readValue, start, first, opens.2.2, read]

theorem readItems_last {s left : List Char} {node : Node}
    (first : readValue fuel s = ⟨node, some left⟩) (stop : skipSpace left = ']' :: rest) :
    readItems (fuel + 1) s = ([node], none, some rest) := by
  simp [readItems, first, stop]

theorem readItems_more {s t left more : List Char} {c : Char} {node : Node}
    (first : readValue fuel s = ⟨node, some left⟩) (comma : skipSpace left = ',' :: t)
    (next : skipSpace t = c :: more) (opens : Opens c) {items : List Node} {ending : Option Fault}
    {after : Option (List Char)} (others : readItems fuel t = (items, ending, after)) :
    readItems (fuel + 1) s = (node :: items, ending, after) := by
  rw [← readItems_skipSpace, next] at others
  simp [readItems, first, comma, next, opens.2.1, others]

theorem readMembers_last {s t left left' : List Char} {l : Literal} {node : Node}
    (key : readValue fuel s = ⟨.string l, some left⟩) (colon : skipSpace left = ':' :: t)
    (value : readValue fuel t = ⟨node, some left'⟩) (stop : skipSpace left' = '\x7d' :: rest) :
    readMembers (fuel + 1) s = ([(.string l, node)], none, some rest) := by
  simp [readMembers, key, colon, value, stop]

theorem readMembers_more {s t u left left' more : List Char} {c : Char} {l : Literal}
    {node : Node} (key : readValue fuel s = ⟨.string l, some left⟩)
    (colon : skipSpace left = ':' :: t) (value : readValue fuel t = ⟨node, some left'⟩)
    (comma : skipSpace left' = ',' :: u) (next : skipSpace u = c :: more) (opens : Opens c)
    {members : List (Node × Node)} {ending : Option Fault} {after : Option (List Char)}
    (others : readMembers fuel u = (members, ending, after)) :
    readMembers (fuel + 1) s = ((.string l, node) :: members, ending, after) := by
  rw [← readMembers_skipSpace, next] at others
  simp [readMembers, key, colon, value, comma, next, opens.2.2, others]

end

-- What reading a stretch of a text comes to. For each character there is fuel for two calls.
def Part.ReadFrom (s : List Char) : Part → Prop
  | .value node => ∀ fuel rest, 2 * s.length ≤ fuel → Unnumbered rest →
      readValue fuel (s ++ rest) = ⟨node, some rest⟩
  | .element node => ∀ fuel rest, 2 * s.length ≤ fuel → Follows rest →
      ∃ left, readValue fuel (s ++ rest) = ⟨node, some left⟩ ∧ skipSpace left = rest
  | .items nodes => ∀ fuel rest, 2 * s.length < fuel →
      readItems fuel (s ++ ']' :: rest) = (nodes, none, some rest)
  | .members named => ∀ fuel rest, 2 * s.length < fuel →
      readMembers fuel (s ++ '\x7d' :: rest) = (named, none, some rest)

theorem follows_cons {c : Char} (among : c = ',' ∨ c = ':' ∨ c = ']' ∨ c = '\x7d')
    (s : List Char) : Follows (c :: s) := by
  rintro _ ⟨⟩
  exact among

theorem exists_less {length fuel : Nat} (enough : 2 * length ≤ fuel) (some_length : 0 < length) :
    ∃ less, fuel = less + 1 := ⟨fuel - 1, by omega⟩

theorem Spells.readFrom {s : List Char} {part : Part} (spelled : Spells s part) :
    part.ReadFrom s := by
  induction spelled with
  | @element before s after node leading trailing value ih =>
    intro fuel rest enough follows
    refine ⟨after ++ rest, ?_, by rw [skipSpace_append trailing, follows.unspaced]⟩
    simp only [List.length_append] at enough
    rw [List.append_assoc, List.append_assoc, ← readValue_skipSpace, skipSpace_append leading,
      readValue_skipSpace]
    exact ih fuel (after ++ rest) (by omega) (follows.unnumbered trailing)
  | item element ih =>
    intro fuel rest enough
    obtain ⟨fuel, rfl⟩ : ∃ less, fuel = less + 1 := ⟨fuel - 1, by omega⟩
    obtain ⟨left, first, stop⟩ := ih fuel _ (by omega) (follows_cons (.inr (.inr (.inl rfl))) rest)
    exact readItems_last first stop
  | items element others ih ihOthers =>
    intro fuel rest enough
    obtain ⟨fuel, rfl⟩ : ∃ less, fuel = less + 1 := ⟨fuel - 1, by omega⟩
    simp only [List.length_append, List.length_cons] at enough
    have some_length := element.length_pos
    obtain ⟨left, first, comma⟩ := ih fuel _ (by omega) (follows_cons (.inl rfl) _)
    obtain ⟨c, more, next, opens⟩ := others.starts
    rw [List.append_assoc, List.cons_append]
    exact readItems_more first comma (skipSpace_append_of_cons next _) opens
      (ihOthers fuel rest (by omega))
  | member key value ih ihValue =>
    intro fuel rest enough
    obtain ⟨fuel, rfl⟩ : ∃ less, fuel = less + 1 := ⟨fuel - 1, by omega⟩
    simp only [List.length_append, List.length_cons] at enough
    obtain ⟨left, named, colon⟩ := ih fuel _ (by omega) (follows_cons (.inr (.inl rfl)) _)
    obtain ⟨left', content, stop⟩ := ihValue fuel _ (by omega)
      (follows_cons (.inr (.inr (.inr rfl))) rest)
    rw [List.append_assoc, List.cons_append]
    exact readMembers_last named colon content stop
  | members key value others ih ihValue ihOthers =>
    intro fuel rest enough
    obtain ⟨fuel, rfl⟩ : ∃ less, fuel = less + 1 := ⟨fuel - 1, by omega⟩
    simp only [List.length_append, List.length_cons] at enough
    obtain ⟨left, named, colon⟩ := ih fuel _ (by omega) (follows_cons (.inr (.inl rfl)) _)
    obtain ⟨left', content, comma⟩ := ihValue fuel _ (by omega) (follows_cons (.inl rfl) _)
    obtain ⟨c, more, next, opens⟩ := others.starts
    rw [List.append_assoc, List.cons_append, List.append_assoc, List.cons_append]
    exact readMembers_more named colon content comma (skipSpace_append_of_cons next _) opens
      (ihOthers fuel rest (by omega))
  | null | true | false =>
    intro fuel rest enough ends
    obtain ⟨fuel, rfl⟩ := exists_less enough (by simp)
    rfl
  | positive magnitude =>
    intro fuel rest enough ends
    obtain ⟨d, more, rfl, digit⟩ := magnitude.starts
    obtain ⟨fuel, rfl⟩ := exists_less enough (by simp)
    exact (readValue_digit digit (more ++ rest)).trans (readNumeral_spelled magnitude ends)
  | negative magnitude =>
    intro fuel rest enough ends
    obtain ⟨fuel, rfl⟩ := exists_less enough (by simp)
    rw [← readNumeral_spelled magnitude ends]
    rfl
  | string spelled =>
    intro fuel rest enough ends
    obtain ⟨fuel, rfl⟩ := exists_less enough (by simp)
    rw [List.cons_append, List.append_assoc]
    exact readValue_string spelled
  | emptyArray spaces =>
    intro fuel rest enough ends
    obtain ⟨fuel, rfl⟩ := exists_less enough (by simp)
    rw [List.cons_append, List.append_assoc]
    exact readValue_emptyArray (skipSpace_append spaces _)
  | emptyObject spaces =>
    intro fuel rest enough ends
    obtain ⟨fuel, rfl⟩ := exists_less enough (by simp)
    rw [List.cons_append, List.append_assoc]
    exact readValue_emptyObject (skipSpace_append spaces _)
  | array items ih =>
    intro fuel rest enough ends
    obtain ⟨fuel, rfl⟩ := exists_less enough (by simp)
    obtain ⟨c, more, first, opens⟩ := items.starts
    simp only [List.length_append, List.length_cons] at enough
    rw [List.cons_append, List.append_assoc]
    exact readValue_array (skipSpace_append_of_cons first _) opens (ih fuel rest (by omega))
  | object spelled ih =>
    intro fuel rest enough ends
    obtain ⟨fuel, rfl⟩ := exists_less enough (by simp)
    obtain ⟨c, more, first, opens⟩ := spelled.starts
    simp only [List.length_append, List.length_cons] at enough
    rw [List.cons_append, List.append_assoc]
    exact readValue_object (skipSpace_append_of_cons first _) opens (ih fuel rest (by omega))

theorem ofText_spelled {s : String} {root : Node} (spelled : Spells s.toList (.element root)) :
    Document.ofText s = ⟨root, false⟩ := by
  obtain ⟨left, read, remains⟩ :=
    spelled.readFrom (2 * s.toList.length + 2) [] (by omega) (by simp [Follows])
  rw [List.append_nil] at read
  simp [Document.ofText, read, remains]

end SiteCache.Json
