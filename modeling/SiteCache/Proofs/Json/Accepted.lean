import SiteCache.Proofs.Fallible
import SiteCache.Proofs.Json.Reading

set_option autoImplicit false

namespace SiteCache.Json

theorem pieces_of_readLiteral {s : List Char} (closed : (readLiteral s).1.ending = .closed) :
    ∃ v, s = v ++ '"' :: (readLiteral s).2 ∧ SpellsPieces v (readLiteral s).1.pieces := by
  fun_induction readLiteral s with
  | case2 rest => exact ⟨[], rfl, .nil⟩
  | case3 a b c d s value number ih =>
    obtain ⟨v, whole, spelled⟩ := ih closed
    exact ⟨_, congrArg ('\\' :: 'u' :: a :: b :: c :: d :: ·) whole, .number number spelled⟩
  | case7 e s _ _ c short ih =>
    obtain ⟨v, whole, spelled⟩ := ih closed
    exact ⟨_, congrArg ('\\' :: e :: ·) whole, .short short spelled⟩
  | case10 c s quote _ _ alone escape plain ih =>
    obtain ⟨v, whole, spelled⟩ := ih closed
    have backslash : c ≠ '\\' := by
      intro same
      cases s with
      | nil => exact alone same rfl
      | cons e s => exact escape e s same rfl
    exact ⟨_, congrArg (c :: ·) whole, .char quote backslash plain spelled⟩
  | _ => cases closed

theorem run_of_readDigits {s digits rest : List Char} (read : readDigits s = .ok (digits, rest)) :
    s = digits ++ rest ∧ DigitRun digits := by
  unfold readDigits at read
  split at read
  · cases read
  · cases read
    rename_i some_digit
    exact ⟨List.takeWhile_append_dropWhile.symm, some_digit, fun _ => List.mem_takeWhile_imp⟩

theorem run_of_readWhole {s whole rest : List Char} (read : readWhole s = .ok (whole, rest)) :
    s = whole ++ rest ∧ DigitRun whole ∧ (whole.head? = some '0' → whole = ['0']) := by
  unfold readWhole at read
  split at read
  · split at read
    · cases read
    · cases read
      exact ⟨rfl, ⟨by simp, by simp [Text.Digits]⟩, fun _ => rfl⟩
  · rename_i several
    obtain ⟨rfl, run⟩ := run_of_readDigits read
    refine ⟨rfl, run, fun zero => ?_⟩
    obtain ⟨d, more, rfl⟩ := List.exists_cons_of_ne_nil run.1
    cases zero
    cases more with
    | nil => rfl
    | cons c more => exact absurd rfl (several c (more ++ rest))

theorem run_of_map_readDigits {α : Type} {s rest : List Char} {a : α} (f : List Char → α)
    (read : (readDigits s).map (fun found => (f found.1, found.2)) = .ok (a, rest)) :
    ∃ digits, a = f digits ∧ s = digits ++ rest ∧ DigitRun digits := by
  cases run : readDigits s with
  | error fault =>
    rw [run] at read
    cases read
  | ok found =>
    rw [run] at read
    cases read
    exact ⟨found.1, rfl, run_of_readDigits run⟩

theorem fraction_of_readFraction {s rest : List Char} {digits : Option (List Char)}
    (read : readFraction s = .ok (digits, rest)) :
    ∃ v, s = v ++ rest ∧ SpellsFraction v digits := by
  unfold readFraction at read
  split at read
  · obtain ⟨digits, rfl, rfl, run⟩ := run_of_map_readDigits some read
    exact ⟨_, rfl, .some run⟩
  · cases read
    exact ⟨[], rfl, .none⟩

theorem exponent_of_readExponent {s rest : List Char} {power : Option (Bool × List Char)}
    (read : readExponent s = .ok (power, rest)) : ∃ v, s = v ++ rest ∧ SpellsExponent v power := by
  unfold readExponent at read
  dsimp only at read
  split at read
  · split at read
    · obtain ⟨digits, rfl, rfl, run⟩ := run_of_map_readDigits (fun run => some (true, run)) read
      exact ⟨_, rfl, .some (.inl rfl) .minus run⟩
    · obtain ⟨digits, rfl, rfl, run⟩ := run_of_map_readDigits (fun run => some (false, run)) read
      exact ⟨_, rfl, .some (.inl rfl) .plus run⟩
    · obtain ⟨digits, rfl, rfl, run⟩ := run_of_map_readDigits (fun run => some (false, run)) read
      exact ⟨_, rfl, .some (.inl rfl) .none run⟩
  · split at read
    · obtain ⟨digits, rfl, rfl, run⟩ := run_of_map_readDigits (fun run => some (true, run)) read
      exact ⟨_, rfl, .some (.inr rfl) .minus run⟩
    · obtain ⟨digits, rfl, rfl, run⟩ := run_of_map_readDigits (fun run => some (false, run)) read
      exact ⟨_, rfl, .some (.inr rfl) .plus run⟩
    · obtain ⟨digits, rfl, rfl, run⟩ := run_of_map_readDigits (fun run => some (false, run)) read
      exact ⟨_, rfl, .some (.inr rfl) .none run⟩
  · cases read
    exact ⟨[], rfl, .none⟩

theorem magnitude_of_readNumeral {negative : Bool} {s : List Char}
    (sound : (readNumeral negative s).node.skipFault? = none) :
    ∃ v left n, s = v ++ left ∧ readNumeral negative s = ⟨.number n, some left⟩ ∧
      SpellsMagnitude negative v n := by
  unfold readNumeral at sound ⊢
  dsimp only at sound ⊢
  split at sound <;> rename_i read
  · obtain ⟨⟨whole, after⟩, first, read⟩ := bind_eq_ok.mp read
    obtain ⟨⟨digits, after'⟩, second, read⟩ := bind_eq_ok.mp read
    obtain ⟨⟨power, after''⟩, third, read⟩ := bind_eq_ok.mp read
    cases read
    obtain ⟨rfl, run, leading⟩ := run_of_readWhole first
    obtain ⟨v, rfl, fractional⟩ := fraction_of_readFraction second
    obtain ⟨v', rfl, exponential⟩ := exponent_of_readExponent third
    refine ⟨_, after'', _, ?_, rfl, .intro run leading fractional exponential⟩
    simp only [List.append_assoc]
  · cases sound

theorem readWord_sound {node : Node} {word s : List Char}
    (sound : (readWord node word s).node.skipFault? = none) :
    ∃ left, s = word ++ left ∧ readWord node word s = ⟨node, some left⟩ := by
  induction word generalizing s with
  | nil => exact ⟨s, rfl, rfl⟩
  | cons w word ih =>
    cases s with
    | nil => cases sound
    | cons c s =>
      rw [readWord] at sound ⊢
      split at sound <;> rename_i same
      · obtain ⟨left, rfl, read⟩ := ih sound
        exact ⟨left, by rw [same]; rfl, by rw [if_pos same, read]⟩
      · cases sound

theorem readLiteral_not_foreign (s : List Char) : (readLiteral s).1.ending ≠ .foreign := by
  fun_induction readLiteral s with
  | case3 _ _ _ _ _ _ _ ih | case7 _ _ _ _ _ _ ih | case10 _ _ _ _ _ _ _ _ ih => exact ih
  | _ => exact nofun

theorem readString_sound {s : List Char} (sound : (readString s).node.skipFault? = none) :
    ∃ v left pieces, s = v ++ '"' :: left ∧
      readString s = ⟨.string ⟨pieces, .closed⟩, some left⟩ ∧ SpellsPieces v pieces := by
  have closed : (readLiteral s).1.ending = .closed := by
    have proper := readLiteral_not_foreign s
    cases ending : (readLiteral s).1.ending with
    | closed => rfl
    | foreign => exact absurd ending proper
    | _ =>
      simp [readString, Node.skipFault?, LiteralEnd.skipFault?, LiteralEnd.fault?, ending] at sound
  obtain ⟨v, whole, spelled⟩ := pieces_of_readLiteral closed
  refine ⟨v, _, _, whole, ?_, spelled⟩
  rw [readString]
  dsimp only
  rw [if_pos closed, ← closed]

-- One round of reading items that meets no fault: the item is the last one or others follow.
theorem readItems_round {fuel : Nat} {s : List Char}
    (sound : skipItems? (readItems (fuel + 1) s).1 = none)
    (ended : (readItems (fuel + 1) s).2.1 = none) :
    (readValue fuel s).node.skipFault? = none ∧
      ((readValue fuel s).rest = none ∨ ∃ left, (readValue fuel s).rest = some left ∧
        ((∃ rest, skipSpace left = ']' :: rest ∧
          readItems (fuel + 1) s = ([(readValue fuel s).node], none, some rest)) ∨
        ∃ t, skipSpace left = ',' :: t ∧ skipItems? (readItems fuel t).1 = none ∧
          (readItems fuel t).2.1 = none ∧ readItems (fuel + 1) s =
            ((readValue fuel s).node :: (readItems fuel t).1, none, (readItems fuel t).2.2))) := by
  generalize read : readItems (fuel + 1) s = reading at sound ended ⊢
  rw [readItems] at read
  dsimp only at read
  split at read <;> rename_i stop
  · subst read
    exact ⟨(skipItems?_cons.mp sound).1, .inl stop⟩
  · rename_i left
    split at read <;> rename_i next
    · subst read
      exact ⟨(skipItems?_cons.mp sound).1, .inr ⟨left, stop, .inl ⟨_, next, rfl⟩⟩⟩
    · subst read
      cases ended
    · split at read
      · subst read
        cases (skipItems?_cons.mp (skipItems?_cons.mp sound).2).1
      · subst read
        rw [readItems_skipSpace] at sound ended ⊢
        obtain ⟨first, others⟩ := skipItems?_cons.mp sound
        exact ⟨first, .inr ⟨left, stop, .inr ⟨_, next, others, ended, by rw [← ended]⟩⟩⟩
    · subst read
      cases ended

theorem readMembers_round {fuel : Nat} {s : List Char}
    (sound : skipMembers? (readMembers (fuel + 1) s).1 = none)
    (ended : (readMembers (fuel + 1) s).2.1 = none) :
    ∃ l behind inner, readValue fuel s = ⟨.string l, some behind⟩ ∧ l.ending.skipFault? = none ∧
      skipSpace behind = ':' :: inner ∧ (readValue fuel inner).node.skipFault? = none ∧
      ((readValue fuel inner).rest = none ∨ ∃ left, (readValue fuel inner).rest = some left ∧
        ((∃ rest, skipSpace left = '\x7d' :: rest ∧ readMembers (fuel + 1) s =
          ([(.string l, (readValue fuel inner).node)], none, some rest)) ∨
        ∃ t, skipSpace left = ',' :: t ∧ skipMembers? (readMembers fuel t).1 = none ∧
          (readMembers fuel t).2.1 = none ∧ readMembers (fuel + 1) s =
            ((.string l, (readValue fuel inner).node) :: (readMembers fuel t).1, none,
              (readMembers fuel t).2.2))) := by
  generalize read : readMembers (fuel + 1) s = reading at sound ended ⊢
  rw [readMembers] at read
  dsimp only at read
  split at read <;> rename_i named
  · rename_i l behind key
    have first : readValue fuel s = ⟨.string l, some behind⟩ := by rw [← key, ← named]
    rw [key] at read
    split at read <;> rename_i colon
    · rename_i inner
      refine ⟨l, behind, inner, first, ?_⟩
      split at read <;> rename_i stop
      · subst read
        obtain ⟨closed, value, -⟩ := skipMembers?_cons.mp sound
        exact ⟨closed, colon, value, .inl stop⟩
      · rename_i left
        split at read <;> rename_i next
        · subst read
          obtain ⟨closed, value, -⟩ := skipMembers?_cons.mp sound
          exact ⟨closed, colon, value, .inr ⟨left, stop, .inl ⟨_, next, rfl⟩⟩⟩
        · subst read
          cases ended
        · split at read
          · subst read
            cases ended
          · subst read
            cases ended
          · subst read
            rw [readMembers_skipSpace] at sound ended ⊢
            obtain ⟨closed, value, others⟩ := skipMembers?_cons.mp sound
            exact ⟨closed, colon, value,
              .inr ⟨left, stop, .inr ⟨_, next, others, ended, by rw [← ended]⟩⟩⟩
        · subst read
          cases ended
    · subst read
      cases (skipMembers?_cons.mp sound).2.1
    · subst read
      cases (skipMembers?_cons.mp sound).2.1
  · subst read
    cases key : (readValue fuel s).node with
    | string l =>
      rw [key] at sound
      cases (skipMembers?_cons.mp sound).2.1
    | _ =>
      rw [key] at sound
      cases sound

-- What was read without a fault, and what is left behind it.
def Taken (s : List Char) (node : Node) (left : Option (List Char)) : Prop :=
  ∃ before v rest, left = some rest ∧ s = before ++ (v ++ rest) ∧ Spaces before ∧
    Spells v (.value node)

theorem Taken.element {s : List Char} {left : Option (List Char)} {node : Node}
    (taken : Taken s node left) :
    ∃ rest, left = some rest ∧ ∃ v, s = v ++ skipSpace rest ∧ Spells v (.element node) := by
  obtain ⟨before, v, rest, rfl, rfl, leading, spelled⟩ := taken
  obtain ⟨after, split, trailing⟩ := exists_spaces rest
  refine ⟨rest, rfl, before ++ (v ++ after), ?_, .element leading trailing spelled⟩
  rw [List.append_assoc, List.append_assoc, ← split]

mutual

theorem readValue_sound (fuel : Nat) (s : List Char)
    (sound : (readValue fuel s).node.skipFault? = none) :
    Taken s (readValue fuel s).node (readValue fuel s).rest := by
  match fuel with
  | 0 => cases sound
  | fuel + 1 =>
    obtain ⟨before, start, leading⟩ := exists_spaces s
    suffices ∃ v rest, (readValue (fuel + 1) s).rest = some rest ∧ skipSpace s = v ++ rest ∧
        Spells v (.value (readValue (fuel + 1) s).node) by
      obtain ⟨v, rest, left, first, spelled⟩ := this
      exact ⟨before, v, rest, left, first ▸ start, leading, spelled⟩
    generalize read : readValue (fuel + 1) s = reading at sound ⊢
    rw [readValue] at read
    split at read <;> rename_i first
    · subst read
      cases sound
    · subst read
      obtain ⟨v, left, pieces, rfl, read, spelled⟩ := readString_sound sound
      rw [read]
      exact ⟨_, left, rfl, by rw [first]; simp, .string spelled⟩
    · rename_i inner
      split at read <;> rename_i next
      · subst read
        obtain ⟨spaces, whole, blank⟩ := exists_spaces inner
        refine ⟨_, _, rfl, ?_, .emptyArray blank⟩
        rw [first, whole, next]
        simp
      · subst read
        cases sound
      · subst read
        rw [readItems_skipSpace] at sound ⊢
        dsimp only at sound ⊢
        obtain ⟨items, ended⟩ := skipFault?_array.mp sound
        obtain ⟨v, left, remains, rfl, spelled⟩ := readItems_sound fuel inner items ended
        rw [ended]
        exact ⟨_, left, remains, by rw [first]; simp, .array spelled⟩
    · rename_i inner
      split at read <;> rename_i next
      · subst read
        obtain ⟨spaces, whole, blank⟩ := exists_spaces inner
        refine ⟨_, _, rfl, ?_, .emptyObject blank⟩
        rw [first, whole, next]
        simp
      · subst read
        cases sound
      · subst read
        rw [readMembers_skipSpace] at sound ⊢
        dsimp only at sound ⊢
        obtain ⟨members, ended⟩ := skipFault?_object.mp sound
        obtain ⟨v, left, remains, rfl, spelled⟩ := readMembers_sound fuel inner members ended
        rw [ended]
        exact ⟨_, left, remains, by rw [first]; simp, .object spelled⟩
    · subst read
      obtain ⟨left, rfl, read⟩ := readWord_sound sound
      rw [read]
      exact ⟨_, left, rfl, first, .null⟩
    · subst read
      obtain ⟨left, rfl, read⟩ := readWord_sound sound
      rw [read]
      exact ⟨_, left, rfl, first, .true⟩
    · subst read
      obtain ⟨left, rfl, read⟩ := readWord_sound sound
      rw [read]
      exact ⟨_, left, rfl, first, .false⟩
    · subst read
      obtain ⟨v, left, n, rfl, read, spelled⟩ := magnitude_of_readNumeral sound
      rw [read]
      exact ⟨_, left, rfl, first, .negative spelled⟩
    · split at read
      · subst read
        obtain ⟨v, left, n, whole, read, spelled⟩ := magnitude_of_readNumeral sound
        rw [read]
        exact ⟨v, left, rfl, first.trans whole, .positive spelled⟩
      · subst read
        cases sound

theorem readItems_sound (fuel : Nat) (s : List Char)
    (sound : skipItems? (readItems fuel s).1 = none) (ended : (readItems fuel s).2.1 = none) :
    ∃ v rest, (readItems fuel s).2.2 = some rest ∧ s = v ++ ']' :: rest ∧
      Spells v (.items (readItems fuel s).1) := by
  match fuel with
  | 0 => cases ended
  | fuel + 1 =>
    obtain ⟨first, more⟩ := readItems_round sound ended
    obtain ⟨left, behind, v, whole, spelled⟩ := (readValue_sound fuel s first).element
    obtain stop | ⟨left', behind', more⟩ := more
    · cases behind.symm.trans stop
    · cases behind.symm.trans behind'
      obtain ⟨rest, close, read⟩ | ⟨t, comma, items, ended, read⟩ := more
      · rw [read]
        exact ⟨v, rest, rfl, close ▸ whole, .item spelled⟩
      · obtain ⟨v', rest, remains, rfl, spelled'⟩ := readItems_sound fuel t items ended
        rw [read]
        refine ⟨v ++ ',' :: v', rest, remains, ?_, .items spelled spelled'⟩
        rw [whole, comma]
        simp

theorem readMembers_sound (fuel : Nat) (s : List Char)
    (sound : skipMembers? (readMembers fuel s).1 = none) (ended : (readMembers fuel s).2.1 = none) :
    ∃ v rest, (readMembers fuel s).2.2 = some rest ∧ s = v ++ '\x7d' :: rest ∧
      Spells v (.members (readMembers fuel s).1) := by
  match fuel with
  | 0 => cases ended
  | fuel + 1 =>
    obtain ⟨l, behind, inner, name, closed, colon, value, more⟩ := readMembers_round sound ended
    have named := readValue_sound fuel s (by rw [name]; exact closed)
    rw [name] at named
    obtain ⟨_, ⟨⟩, k, whole, key⟩ := named.element
    obtain ⟨left, behind', v, rfl, content⟩ := (readValue_sound fuel inner value).element
    obtain stop | ⟨left', behind'', more⟩ := more
    · cases behind'.symm.trans stop
    · cases behind'.symm.trans behind''
      obtain ⟨rest, close, read⟩ | ⟨t, comma, members, ended, read⟩ := more
      · rw [read]
        refine ⟨k ++ ':' :: v, rest, rfl, ?_, .member key content⟩
        rw [whole, colon, close]
        simp
      · obtain ⟨v', rest, remains, rfl, others⟩ := readMembers_sound fuel t members ended
        rw [read]
        refine ⟨k ++ ':' :: (v ++ ',' :: v'), rest, remains, ?_, .members key content others⟩
        rw [whole, colon, comma]
        simp

end

theorem spelled_of_ofText {s : String} {root : Node} (read : Document.ofText s = ⟨root, false⟩)
    (sound : root.skipFault? = none) : Spells s.toList (.element root) := by
  rw [Document.ofText, Document.mk.injEq] at read
  obtain ⟨rfl, remains⟩ := read
  obtain ⟨rest, left, v, whole, spelled⟩ := (readValue_sound _ _ sound).element
  rw [left] at remains
  have nothing : skipSpace rest = [] := by simpa using remains
  rw [nothing, List.append_nil] at whole
  subst whole
  exact spelled

theorem ofText_iff (s : String) (root : Node) :
    Document.ofText s = ⟨root, false⟩ ∧ root.skipFault? = none ↔ Spells s.toList (.element root) :=
  ⟨fun ⟨read, sound⟩ => spelled_of_ofText read sound,
    fun spelled => ⟨ofText_spelled spelled, spelled.faultless⟩⟩

end SiteCache.Json
