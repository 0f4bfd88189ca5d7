import SiteCache.Json.Value
import SiteCache.Proofs.Json.Grammar

set_option autoImplicit false

namespace SiteCache.Json

def pieceOf (c : Char) : Piece :=
  if c.toNat < 0x20 ∧ c.toNat ≠ 8 ∧ c.toNat ≠ 12 ∧ c ≠ '\n' ∧ c ≠ '\r' ∧ c ≠ '\t' then
    .unit c.toNat
  else .char c

def writtenLiteral (s : String) : Literal := ⟨s.toList.map pieceOf, .closed⟩

theorem fourHex?_control {n : Nat} (control : n < 0x20) :
    fourHex? '0' '0' (hexDigit (n / 16)) (hexDigit n) = some n := by
  revert n
  decide

theorem escapedChar_spelled (c : Char) {s : List Char} {pieces : List Piece}
    (rest : SpellsPieces s pieces) : SpellsPieces (escapedChar c ++ s) (pieceOf c :: pieces) := by
  unfold escapedChar pieceOf
  by_cases quote : c = '"'
  · subst quote
    exact .short rfl rest
  by_cases backslash : c = '\\'
  · subst backslash
    exact .short rfl rest
  by_cases backspace : c.toNat = 8
  · obtain rfl : c = Char.ofNat 8 := by rw [← backspace, Char.ofNat_toNat]
    exact .short rfl rest
  by_cases feed : c.toNat = 12
  · obtain rfl : c = Char.ofNat 12 := by rw [← feed, Char.ofNat_toNat]
    exact .short rfl rest
  by_cases newline : c = '\n'
  · subst newline
    exact .short rfl rest
  by_cases carriage : c = '\r'
  · subst carriage
    exact .short rfl rest
  by_cases tab : c = '\t'
  · subst tab
    exact .short rfl rest
  simp only [quote, backslash, backspace, feed, newline, carriage, tab, if_false, ne_eq,
    not_false_eq_true, and_true]
  by_cases control : c.toNat < 0x20
  · rw [if_pos control, if_pos control]
    exact .number (fourHex?_control control) rest
  · rw [if_neg control, if_neg control]
    exact .char quote backslash control rest

theorem escaped_spelled (s : List Char) : SpellsPieces (s.flatMap escapedChar) (s.map pieceOf) := by
  induction s with
  | nil => exact .nil
  | cons c s ih => exact escapedChar_spelled c ih

theorem charsOf_control {n : Nat} (control : n < 0x20) (ending : LiteralEnd)
    (rest : List Piece) : charsOf ending (.unit n :: rest) =
      (charsOf ending rest).map (Char.ofNat n :: ·) := by
  have trailing : isTrailing n = false := by simp [isTrailing]; omega
  have leading : isLeading n = false := by simp [isLeading]; omega
  match rest with
  | [] => simp [charsOf, trailing, leading]
  | .char c :: rest => simp [charsOf, trailing, leading]
  | .unit u :: rest => simp [charsOf, trailing, leading]

theorem charsOf_written (s : List Char) : charsOf .closed (s.map pieceOf) = .ok s := by
  induction s with
  | nil => rfl
  | cons c s ih =>
    rw [List.map_cons, pieceOf]
    split <;> rename_i control
    · rw [charsOf_control control.1, ih, Char.ofNat_toNat]
      rfl
    · rw [charsOf, ih]
      rfl

@[simp] theorem text_writtenLiteral (s : String) : (writtenLiteral s).text = .ok s := by
  rw [Literal.text, writtenLiteral, charsOf_written]
  simp [Except.map]

end SiteCache.Json
