import Mathlib.Data.List.DropRight
import Mathlib.Data.Option.Basic
import SiteCache.Json.Node
import SiteCache.Proofs.Text.Decimal

set_option autoImplicit false

namespace SiteCache.Json

open Text (Digits)

def Spaces (s : List Char) : Prop := ∀ c ∈ s, isSpace c = true

inductive SpellsPieces : List Char → List Piece → Prop
  | nil : SpellsPieces [] []
  | char {c : Char} {s : List Char} {pieces : List Piece} (quote : c ≠ '"') (backslash : c ≠ '\\')
      (plain : ¬c.toNat < 0x20) (rest : SpellsPieces s pieces) :
      SpellsPieces (c :: s) (.char c :: pieces)
  | short {e c : Char} {s : List Char} {pieces : List Piece} (short : shortEscape? e = some c)
      (rest : SpellsPieces s pieces) : SpellsPieces ('\\' :: e :: s) (.char c :: pieces)
  | number {a b c d : Char} {value : Nat} {s : List Char} {pieces : List Piece}
      (number : fourHex? a b c d = some value) (rest : SpellsPieces s pieces) :
      SpellsPieces ('\\' :: 'u' :: a :: b :: c :: d :: s) (.unit value :: pieces)

def DigitRun (s : List Char) : Prop := s ≠ [] ∧ Digits s

inductive SpellsFraction : List Char → Option (List Char) → Prop
  | none : SpellsFraction [] none
  | some {digits : List Char} (run : DigitRun digits) : SpellsFraction ('.' :: digits) (some digits)

inductive SpellsSign : List Char → Bool → Prop
  | none : SpellsSign [] false
  | plus : SpellsSign ['+'] false
  | minus : SpellsSign ['-'] true

inductive SpellsExponent : List Char → Option (Bool × List Char) → Prop
  | none : SpellsExponent [] none
  | some {e : Char} {sign digits : List Char} {negative : Bool} (letter : e = 'e' ∨ e = 'E')
      (signed : SpellsSign sign negative) (run : DigitRun digits) :
      SpellsExponent (e :: (sign ++ digits)) (some (negative, digits))

inductive SpellsMagnitude (negative : Bool) : List Char → Numeral → Prop
  | intro {whole fraction exponent : List Char} {digits : Option (List Char)}
      {power : Option (Bool × List Char)} (run : DigitRun whole)
      (leading : whole.head? = some '0' → whole = ['0'])
      (fractional : SpellsFraction fraction digits) (exponential : SpellsExponent exponent power) :
      SpellsMagnitude negative (whole ++ (fraction ++ exponent)) ⟨negative, whole, digits, power⟩

inductive Part where
  | value (node : Node)
  | element (node : Node)
  | items (nodes : List Node)
  | members (members : List (Node × Node))

inductive Spells : List Char → Part → Prop
  | null : Spells ['n', 'u', 'l', 'l'] (.value .null)
  | true : Spells ['t', 'r', 'u', 'e'] (.value (.bool true))
  | false : Spells ['f', 'a', 'l', 's', 'e'] (.value (.bool false))
  | positive {s : List Char} {n : Numeral} (magnitude : SpellsMagnitude false s n) :
      Spells s (.value (.number n))
  | negative {s : List Char} {n : Numeral} (magnitude : SpellsMagnitude true s n) :
      Spells ('-' :: s) (.value (.number n))
  | string {s : List Char} {pieces : List Piece} (spelled : SpellsPieces s pieces) :
      Spells ('"' :: (s ++ ['"'])) (.value (.string ⟨pieces, .closed⟩))
  | emptyArray {s : List Char} (spaces : Spaces s) :
      Spells ('[' :: (s ++ [']'])) (.value (.array [] none))
  | array {s : List Char} {nodes : List Node} (items : Spells s (.items nodes)) :
      Spells ('[' :: (s ++ [']'])) (.value (.array nodes none))
  | emptyObject {s : List Char} (spaces : Spaces s) :
      Spells ('\x7b' :: (s ++ ['\x7d'])) (.value (.object [] none))
  | object {s : List Char} {members : List (Node × Node)} (spelled : Spells s (.members members)) :
      Spells ('\x7b' :: (s ++ ['\x7d'])) (.value (.object members none))
  | element {before s after : List Char} {node : Node} (leading : Spaces before)
      (trailing : Spaces after) (value : Spells s (.value node)) :
      Spells (before ++ (s ++ after)) (.element node)
  | item {s : List Char} {node : Node} (element : Spells s (.element node)) :
      Spells s (.items [node])
  | items {s t : List Char} {node : Node} {nodes : List Node} (element : Spells s (.element node))
      (others : Spells t (.items nodes)) : Spells (s ++ ',' :: t) (.items (node :: nodes))
  | member {s t : List Char} {l : Literal} {node : Node} (key : Spells s (.element (.string l)))
      (value : Spells t (.element node)) : Spells (s ++ ':' :: t) (.members [(.string l, node)])
  | members {s t u : List Char} {l : Literal} {node : Node} {members : List (Node × Node)}
      (key : Spells s (.element (.string l))) (value : Spells t (.element node))
      (others : Spells u (.members members)) :
      Spells (s ++ ':' :: (t ++ ',' :: u)) (.members ((.string l, node) :: members))

theorem skipFault?_array {items : List Node} {ending : Option Fault} :
    (Node.array items ending).skipFault? = none ↔ skipItems? items = none ∧ ending = none := by
  rw [Node.skipFault?, Option.orElse_eq_none]

theorem skipFault?_object {members : List (Node × Node)} {ending : Option Fault} :
    (Node.object members ending).skipFault? = none ↔
      skipMembers? members = none ∧ ending = none := by
  rw [Node.skipFault?, Option.orElse_eq_none]

theorem skipItems?_cons {item : Node} {rest : List Node} :
    skipItems? (item :: rest) = none ↔ item.skipFault? = none ∧ skipItems? rest = none := by
  rw [skipItems?, Option.orElse_eq_none]

theorem skipMembers?_cons {l : Literal} {value : Node} {rest : List (Node × Node)} :
    skipMembers? ((.string l, value) :: rest) = none ↔
      l.ending.skipFault? = none ∧ value.skipFault? = none ∧ skipMembers? rest = none := by
  rw [skipMembers?, Option.orElse_eq_none, Option.orElse_eq_none]

theorem skipMembers?_eq_none {members : List (Node × Node)} :
    skipMembers? members = none ↔ ∀ m ∈ members,
      (∃ l, m.1 = .string l ∧ l.ending.skipFault? = none) ∧ m.2.skipFault? = none := by
  induction members with
  | nil => exact iff_of_true rfl nofun
  | cons member rest ih =>
    obtain ⟨key, value⟩ := member
    rw [List.forall_mem_cons, ← ih]
    cases key with
    | string l => simp [skipMembers?_cons, and_assoc]
    | _ => simp [skipMembers?]

def Part.fault? : Part → Option Fault
  | .value node | .element node => node.skipFault?
  | .items nodes => skipItems? nodes
  | .members named => skipMembers? named

theorem Spells.faultless {s : List Char} {part : Part} (spelled : Spells s part) :
    part.fault? = none := by
  induction spelled with
  | element _ _ _ ih => exact ih
  | array _ ih => exact skipFault?_array.mpr ⟨ih, rfl⟩
  | object _ ih => exact skipFault?_object.mpr ⟨ih, rfl⟩
  | item _ ih => exact skipItems?_cons.mpr ⟨ih, rfl⟩
  | items _ _ ih ihOthers => exact skipItems?_cons.mpr ⟨ih, ihOthers⟩
  | member _ _ ih ihValue => exact skipMembers?_cons.mpr ⟨ih, ihValue, rfl⟩
  | members _ _ _ ih ihValue ihOthers => exact skipMembers?_cons.mpr ⟨ih, ihValue, ihOthers⟩
  | _ => rfl

theorem spaces_nil : Spaces [] := fun _ => nofun

theorem skipSpace_append {s : List Char} (spaces : Spaces s) (rest : List Char) :
    skipSpace (s ++ rest) = skipSpace rest := List.dropWhile_append_of_pos spaces

theorem skipSpace_skipSpace (s : List Char) : skipSpace (skipSpace s) = skipSpace s :=
  List.dropWhile_idempotent isSpace s

theorem skipSpace_append_of_cons {s s' : List Char} {c : Char} (first : skipSpace s = c :: s')
    (rest : List Char) : skipSpace (s ++ rest) = c :: (s' ++ rest) := by
  rw [skipSpace] at first ⊢
  rw [List.dropWhile_append, first]
  rfl

theorem exists_spaces (s : List Char) : ∃ spaces, s = spaces ++ skipSpace s ∧ Spaces spaces :=
  ⟨s.takeWhile isSpace, List.takeWhile_append_dropWhile.symm, fun _ => List.mem_takeWhile_imp⟩

def Opens (c : Char) : Prop := isSpace c = false ∧ c ≠ ']' ∧ c ≠ '\x7d'

theorem opens_of_digit {c : Char} (digit : c.isDigit = true) : Opens c := by
  refine ⟨?_, ?_, ?_⟩
  · simp only [isSpace, Bool.or_eq_false_iff, decide_eq_false_iff_not]
    refine ⟨⟨⟨?_, ?_⟩, ?_⟩, ?_⟩ <;> (rintro rfl; cases digit)
  · rintro rfl
    cases digit
  · rintro rfl
    cases digit

theorem skipSpace_of_opens {c : Char} (opens : Opens c) (s : List Char) :
    skipSpace (c :: s) = c :: s := by
  simp [skipSpace, opens.1]

theorem SpellsMagnitude.starts {negative : Bool} {s : List Char} {n : Numeral}
    (spelled : SpellsMagnitude negative s n) : ∃ c s', s = c :: s' ∧ c.isDigit = true := by
  obtain ⟨run, -, -, -⟩ := spelled
  obtain ⟨d, more, rfl, digit⟩ := Text.exists_cons_of_digits run.2 run.1
  exact ⟨d, _, rfl, digit⟩

theorem Spells.starts {s : List Char} {part : Part} (spelled : Spells s part) :
    ∃ c s', skipSpace s = c :: s' ∧ Opens c := by
  induction spelled with
  | positive magnitude =>
    obtain ⟨d, more, rfl, digit⟩ := magnitude.starts
    exact ⟨d, more, skipSpace_of_opens (opens_of_digit digit) more, opens_of_digit digit⟩
  | element leading trailing _ ih =>
    obtain ⟨c, s', first, opens⟩ := ih
    exact ⟨c, _, by rw [skipSpace_append leading, skipSpace_append_of_cons first], opens⟩
  | item _ ih => exact ih
  | items _ _ ih | member _ _ ih | members _ _ _ ih =>
    obtain ⟨c, s', first, opens⟩ := ih
    exact ⟨c, _, skipSpace_append_of_cons first _, opens⟩
  | _ => exact ⟨_, _, rfl, by decide, by decide, by decide⟩

theorem Spells.length_pos {s : List Char} {part : Part} (spelled : Spells s part) :
    0 < s.length := by
  obtain ⟨c, s', first, -⟩ := spelled.starts
  refine List.length_pos_iff.mpr ?_
  rintro rfl
  cases first

end SiteCache.Json
