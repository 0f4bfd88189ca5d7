import Mathlib.Data.List.Basic
import SiteCache.Toml.QuotedStyle

set_option autoImplicit false

namespace SiteCache.Toml

def closingMarks (mark : Char) : Extent → List Char
  | .line => [mark]
  | .lines => [mark, mark, mark]

section

variable {mark : Char} {s rest : List Char}

-- No three marks in a row, so that the string is not closed inside it. Up to two at its end are
-- told from the closing ones by their number.
def Unclosed (mark : Char) (s : List Char) : Prop :=
  (∃ n ≤ 2, s = List.replicate n mark) ∨
    ∀ tail, ((s ++ tail).takeWhile (· = mark)).length ≤ 2

theorem closing?_line (mark : Char) (rest : List Char) :
    closing? mark .line (mark :: rest) = some ([], rest) := by
  simp [closing?]

theorem closing?_of_few (few : (s.takeWhile (· = mark)).length ≤ 2) :
    closing? mark .lines s = none := by
  simp only [closing?]
  rw [if_neg (by omega)]

theorem closing?_other {c : Char} (other : c ≠ mark) (extent : Extent) (rest : List Char) :
    closing? mark extent (c :: rest) = none := by
  cases extent with
  | line => simp [closing?, other]
  | lines => exact closing?_of_few (by simp [other])

theorem closing?_replicate {n : Nat} (few : n ≤ 2) (ends : rest.head? ≠ some mark) :
    closing? mark .lines (List.replicate n mark ++ (closingMarks mark .lines ++ rest)) =
      some (List.replicate n mark, rest) := by
  have joined : List.replicate n mark ++ (closingMarks mark .lines ++ rest) =
      List.replicate (n + 3) mark ++ rest := by
    rw [← List.replicate_append_replicate, List.append_assoc]
    rfl
  have run : ((List.replicate (n + 3) mark ++ rest).takeWhile (· = mark)).length = n + 3 := by
    rw [List.takeWhile_append_of_pos (by simp)]
    cases rest with
    | nil => simp
    | cons c rest =>
      have other : c ≠ mark := by simpa using ends
      simp [other]
  simp only [joined, closing?, run]
  rw [if_pos (by omega), Nat.add_sub_cancel, Nat.min_eq_left few,
    List.drop_left' (by rw [List.length_replicate, Nat.add_comm])]

-- The closing marks are found right where only marks are left of the string.
theorem closing?_unclosed (unclosed : Unclosed mark s) (ends : rest.head? ≠ some mark) :
    closing? mark .lines (s ++ (closingMarks mark .lines ++ rest)) = some (s, rest) ∨
      closing? mark .lines (s ++ (closingMarks mark .lines ++ rest)) = none := by
  rcases unclosed with ⟨n, few, rfl⟩ | few
  · exact .inl (closing?_replicate few ends)
  · exact .inr (closing?_of_few (few _))

theorem unclosed_of_no_triple (no_triple : hasTriple mark s = false) : Unclosed mark s := by
  match s with
  | [] => exact .inl ⟨0, by simp⟩
  | [a] =>
    by_cases first : a = mark
    · exact .inl ⟨1, by simp [first]⟩
    · exact .inr (by simp [first])
  | [a, b] =>
    by_cases first : a = mark
    · by_cases second : b = mark
      · exact .inl ⟨2, by simp [first, second]⟩
      · exact .inr (by simp [first, second])
    · exact .inr (by simp [first])
  | a :: b :: c :: t =>
    right
    intro tail
    by_cases first : a = mark
    · by_cases second : b = mark
      · have third : c ≠ mark := by
          rintro rfl
          simp [hasTriple, first, second] at no_triple
        simp [first, second, third]
      · simp [first, second]
    · simp [first]

theorem no_triple_tail {c : Char} (no_triple : hasTriple mark (c :: s) = false) :
    hasTriple mark s = false := by
  match s with
  | [] | [_] => rfl
  | a :: b :: t =>
    rw [hasTriple, Bool.or_eq_false_iff] at no_triple
    exact no_triple.2

end

section

variable {extent : Extent} {s rest : List Char}

theorem addChar_some (c : Char) (text rest : List Char) :
    addChar c (some (text, rest)) = some (c :: text, rest) := rfl

def IsShown (extent : Extent) (c : Char) : Prop := isPlain c ∨ (extent = .lines ∧ c = '\n')

theorem readVerbatim_cons {c : Char} (shown : IsShown extent c)
    (goesOn : closing? '\'' extent (c :: rest) = none) :
    readVerbatim extent (c :: rest) = addChar c (readVerbatim extent rest) := by
  rw [readVerbatim, goesOn]
  exact if_pos shown

theorem readVerbatim_closed {c : Char} {result : List Char × List Char}
    (closed : closing? '\'' extent (c :: rest) = some result) :
    readVerbatim extent (c :: rest) = some result := by
  rw [readVerbatim, closed]

theorem readVerbatim_line (shown : ∀ c ∈ s, IsShown .line c) (unmarked : '\'' ∉ s) :
    readVerbatim .line (s ++ (closingMarks '\'' .line ++ rest)) = some (s, rest) := by
  induction s with
  | nil => rfl
  | cons c s ih =>
    obtain ⟨first, shown⟩ := List.forall_mem_cons.mp shown
    rw [List.mem_cons, not_or] at unmarked
    rw [List.cons_append, readVerbatim_cons first (closing?_other (Ne.symm unmarked.1) _ _),
      ih shown unmarked.2, addChar_some]

theorem readVerbatim_lines (shown : ∀ c ∈ s, IsShown .lines c)
    (no_triple : hasTriple '\'' s = false) (ends : rest.head? ≠ some '\'') :
    readVerbatim .lines (s ++ (closingMarks '\'' .lines ++ rest)) = some (s, rest) := by
  induction s with
  | nil => exact readVerbatim_closed (closing?_replicate (n := 0) (by omega) ends)
  | cons c s ih =>
    obtain ⟨first, shown⟩ := List.forall_mem_cons.mp shown
    rcases closing?_unclosed (unclosed_of_no_triple no_triple) ends with closed | goesOn
    · exact readVerbatim_closed closed
    · rw [List.cons_append] at goesOn ⊢
      rw [readVerbatim_cons first goesOn, ih shown (no_triple_tail no_triple), addChar_some]

end

section

variable {extent : Extent} {s rest : List Char}

theorem readEscaped_closed {c : Char} {result : List Char × List Char}
    (closed : closing? '"' extent (c :: rest) = some result) :
    readEscaped extent .text (c :: rest) = some result := by
  simp [readEscaped, closed]

theorem readEscaped_cons {c : Char} (shown : IsShown extent c) (backslash : c ≠ '\\')
    (goesOn : closing? '"' extent (c :: rest) = none) :
    readEscaped extent .text (c :: rest) = addChar c (readEscaped extent .text rest) := by
  simp only [readEscaped, goesOn, backslash, reduceCtorEq, false_and, if_false]
  exact if_pos shown

theorem readEscaped_backslash (rest : List Char) :
    readEscaped extent .text ('\\' :: rest) = readEscaped extent .escape rest := by
  simp [readEscaped, closing?_other (show '\\' ≠ '"' by decide)]

theorem ne_of_short {e c d : Char} (short : shortEscape? e = some c)
    (other : shortEscape? d = none) : e ≠ d := by
  rintro rfl
  cases short.symm.trans other

theorem readEscaped_short {e c : Char} (short : shortEscape? e = some c) :
    readEscaped extent .text ('\\' :: e :: rest) = addChar c (readEscaped extent .text rest) := by
  have symbol : e ≠ 'u' ∧ e ≠ 'U' ∧ e ≠ '\n' ∧ e ≠ ' ' ∧ e ≠ '\t' :=
    ⟨ne_of_short short rfl, ne_of_short short rfl, ne_of_short short rfl, ne_of_short short rfl,
      ne_of_short short rfl⟩
  rw [readEscaped_backslash, readEscaped]
  simp [symbol, isSpace, short]

theorem readEscaped_number {c : Char} (control : c.toNat < 256) :
    readEscaped extent .text ('\\' :: 'u' :: '0' :: '0' :: Text.hexDigit (c.toNat / 16) ::
      Text.hexDigit (c.toNat % 16) :: rest) = addChar c (readEscaped extent .text rest) := by
  have zero : Text.hexValue? '0' = some 0 := rfl
  have high := Text.hexValue?_hexDigit (show c.toNat / 16 < 16 by omega)
  have low := Text.hexValue?_hexDigit (show c.toNat % 16 < 16 by omega)
  have whole : 16 * (c.toNat / 16) + c.toNat % 16 = c.toNat := Nat.div_add_mod _ _
  have char : charOfCode? c.toNat = some c := by
    have valid : c.toNat.isValidChar := c.valid
    rw [charOfCode?, if_pos valid, Char.ofNat_toNat]
  rw [readEscaped_backslash]
  simp [readEscaped, zero, high, low, whole, char]

def IsEscaped (c : Char) : Prop := c = '"' ∨ c = '\\' ∨ c = '\t' ∨ isControl c

theorem control_bound {c : Char} (control : isControl c) : c.toNat < 256 := by
  simp only [isControl, Bool.or_eq_true, Bool.and_eq_true, decide_eq_true_eq, beq_iff_eq] at control
  omega

theorem escapeChar_cases {c : Char} (escaped : IsEscaped c) :
    (∃ e, shortEscape? e = some c ∧ escapeChar c = ['\\', e]) ∨
      (c.toNat < 256 ∧ escapeChar c = '\\' :: 'u' :: '0' :: '0' ::
        [Text.hexDigit (c.toNat / 16), Text.hexDigit (c.toNat % 16)]) := by
  unfold escapeChar
  split_ifs with mark backspace tab newline feed carriage
  · exact .inl ⟨c, if_pos mark, rfl⟩
  · exact .inl ⟨'b', congrArg some backspace.symm, rfl⟩
  · exact .inl ⟨'t', congrArg some tab.symm, rfl⟩
  · exact .inl ⟨'n', congrArg some newline.symm, rfl⟩
  · exact .inl ⟨'f', congrArg some feed.symm, rfl⟩
  · exact .inl ⟨'r', congrArg some carriage.symm, rfl⟩
  · have control : isControl c := by
      rcases escaped with quote | backslash | tab' | control
      · exact absurd (.inl quote) mark
      · exact absurd (.inr backslash) mark
      · exact absurd tab' tab
      · exact control
    exact .inr ⟨control_bound control, rfl⟩

theorem readEscaped_escapeChar {c : Char} (escaped : IsEscaped c) :
    readEscaped extent .text (escapeChar c ++ rest) =
      addChar c (readEscaped extent .text rest) := by
  rcases escapeChar_cases escaped with ⟨e, short, written⟩ | ⟨bound, written⟩
  · rw [written]
    exact readEscaped_short short
  · rw [written]
    exact readEscaped_number bound

theorem head_escapeChar (c : Char) : (escapeChar c).head? = some '\\' := by
  unfold escapeChar
  split_ifs <;> rfl

-- What the characters behind some quotes are written as.
theorem escapeFrom_cons (extent : Extent) (run : Nat) (c : Char) (s : List Char) :
    (c = '"' ∧ run < allowedRun extent ∧
        escapeFrom extent run (c :: s) = c :: escapeFrom extent (run + 1) s) ∨
      (c ≠ '"' ∧ c ≠ '\\' ∧ IsShown extent c ∧
        escapeFrom extent run (c :: s) = c :: escapeFrom extent 0 s) ∨
      (IsEscaped c ∧ escapeFrom extent run (c :: s) = escapeChar c ++ escapeFrom extent 0 s) := by
  rw [escapeFrom]
  by_cases quote : c = '"'
  · rw [if_pos quote]
    by_cases allowed : run < allowedRun extent
    · exact .inl ⟨quote, allowed, if_pos allowed⟩
    · exact .inr (.inr ⟨.inl quote, if_neg allowed⟩)
  · rw [if_neg quote]
    by_cases newline : c = '\n' ∧ extent = .lines
    · rw [if_pos newline]
      refine .inr (.inl ⟨quote, ?_, .inr ⟨newline.2, newline.1⟩, rfl⟩)
      rw [newline.1]
      decide
    · rw [if_neg newline]
      by_cases special : isControl c ∨ c = '\t' ∨ c = '\\'
      · rw [if_pos special]
        refine .inr (.inr ⟨?_, rfl⟩)
        rcases special with control | tab | backslash
        · exact .inr (.inr (.inr control))
        · exact .inr (.inr (.inl tab))
        · exact .inr (.inl backslash)
      · rw [if_neg special]
        simp only [not_or] at special
        exact .inr (.inl ⟨quote, special.2.2, .inl (by simp [isPlain, special.1]), rfl⟩)

-- Of more than two quotes in a row the third is escaped.
theorem escapeFrom_unclosed {run : Nat} (few : run ≤ 2) (s : List Char) :
    (∃ n, n + run ≤ 2 ∧ s = List.replicate n '"' ∧ escapeFrom .lines run s = s) ∨
      ∀ tail, ((escapeFrom .lines run s ++ tail).takeWhile (· = '"')).length + run ≤ 2 := by
  induction s generalizing run with
  | nil => exact .inl ⟨0, by simpa using few, rfl, rfl⟩
  | cons c s ih =>
    rcases escapeFrom_cons .lines run c s with
      ⟨rfl, allowed, written⟩ | ⟨other, -, -, written⟩ | ⟨-, written⟩
    · rw [written]
      rcases ih (show run + 1 ≤ 2 from allowed) with ⟨n, few', rfl, same⟩ | few'
      · exact .inl ⟨n + 1, by omega, rfl, by rw [same]⟩
      · right
        intro tail
        have later := few' tail
        simp only [List.cons_append, decide_true, List.takeWhile_cons_of_pos, List.length_cons]
        omega
    · right
      intro tail
      simpa [written, other] using few
    · right
      intro tail
      obtain ⟨more, start⟩ := List.head?_eq_some_iff.mp (head_escapeChar c)
      simpa [written, start] using few

theorem readEscaped_escapeFrom {run : Nat} (few : run ≤ allowedRun extent)
    (ends : rest.head? ≠ some '"') :
    readEscaped extent .text (escapeFrom extent run s ++ (closingMarks '"' extent ++ rest)) =
      some (s, rest) := by
  induction s generalizing run with
  | nil =>
    cases extent with
    | line => exact readEscaped_closed (closing?_line '"' rest)
    | lines => exact readEscaped_closed (closing?_replicate (n := 0) (by omega) ends)
  | cons c s ih =>
    rcases escapeFrom_cons extent run c s with
      ⟨rfl, allowed, written⟩ | ⟨other, backslash, shown, written⟩ | ⟨escaped, written⟩
    · cases extent with
      | line => cases allowed
      | lines =>
        rcases escapeFrom_unclosed (show run ≤ 2 from few) ('"' :: s) with
          ⟨n, few', marks, same⟩ | few'
        · -- Only quotes are left, and they are read together with the closing ones.
          have closed := closing?_replicate (show n ≤ 2 by omega) ends
          rw [← marks] at closed
          rw [same]
          exact readEscaped_closed closed
        · have goesOn := closing?_of_few
            (Nat.le_trans (Nat.le_add_right _ run) (few' (closingMarks '"' .lines ++ rest)))
          rw [written, List.cons_append] at goesOn ⊢
          rw [readEscaped_cons (.inl rfl) (by decide) goesOn, ih allowed, addChar_some]
    · rw [written, List.cons_append, readEscaped_cons shown backslash (closing?_other other _ _),
        ih (Nat.zero_le _), addChar_some]
    · rw [written, List.append_assoc, readEscaped_escapeChar escaped, ih (Nat.zero_le _),
        addChar_some]

end

section

variable {mark : Char} {extent : Extent} {s body rest : List Char}

theorem head_escapeFrom (extent : Extent) (run : Nat) (s : List Char) :
    ∀ d ∈ (escapeFrom extent run s).head?, d = '\\' ∨ s.head? = some d := by
  intro d first
  cases s with
  | nil => cases first
  | cons c s =>
    rcases escapeFrom_cons extent run c s with
      ⟨-, -, written⟩ | ⟨-, -, -, written⟩ | ⟨-, written⟩
    · rw [written] at first
      exact .inr first
    · rw [written] at first
      exact .inr first
    · rw [written, List.head?_append, head_escapeChar] at first
      exact .inl (Option.some.inj first).symm

theorem head_escapeFrom_line (s : List Char) :
    (escapeFrom .line 0 s).head? ≠ some '"' := by
  cases s with
  | nil => nofun
  | cons c s =>
    rcases escapeFrom_cons .line 0 c s with
      ⟨-, allowed, -⟩ | ⟨other, -, -, written⟩ | ⟨-, written⟩
    · cases allowed
    · simpa [written] using other
    · simp [written, head_escapeChar]

theorem styleOf_verbatim (style : styleOf s = .verbatim extent) :
    (∀ c ∈ s, IsShown extent c) ∧
      match extent with
      | .line => '\'' ∉ s
      | .lines => hasTriple '\'' s = false := by
  simp only [styleOf] at style
  split_ifs at style with quoted line_ quotedLines lines_
  · cases style
    simp only [Bool.and_eq_true, List.all_eq_true, Bool.or_eq_true, decide_eq_true_eq,
      Bool.not_eq_true', List.contains_eq_mem, decide_eq_false_iff_not] at line_
    refine ⟨fun c member => ?_, line_.2.1⟩
    refine .inl ((line_.1 c member).resolve_right ?_)
    rintro rfl
    exact line_.2.2 member
  · cases style
    simp only [Bool.and_eq_true, List.all_eq_true, Bool.or_eq_true, decide_eq_true_eq,
      Bool.not_eq_true'] at lines_
    exact ⟨fun c member => (lines_.1 c member).imp_right fun newline => ⟨rfl, newline⟩, lines_.2⟩

-- A string on one line does not open like one of several.
theorem not_opening (first : body.head? ≠ some mark) (ends : rest.head? ≠ some mark)
    (u : List Char) : body ++ (closingMarks mark .line ++ rest) ≠ mark :: mark :: u := by
  intro same
  cases body with
  | nil =>
    obtain ⟨-, tail⟩ := List.cons.inj same
    exact ends (congrArg List.head? tail)
  | cons d body => exact first (congrArg some (List.cons.inj same).1)

theorem readString_quote {t : List Char} (single : ∀ u, t ≠ '"' :: '"' :: u) :
    readString ('"' :: t) = textOf (readEscaped .line .text t) := by
  unfold readString
  split <;> rename_i same
  · exact absurd (List.cons.inj same).2 (single _)
  · cases same
  · rfl

theorem readString_apostrophe {t : List Char} (single : ∀ u, t ≠ '\'' :: '\'' :: u) :
    readString ('\'' :: t) = textOf (readVerbatim .line t) := by
  unfold readString
  split <;> rename_i same
  · cases same
  · exact absurd (List.cons.inj same).2 (single _)
  · rfl

-- The newline behind the opening marks is there if the string has one, and is no part of it.
theorem dropNewline_body {newline : Bool} (printable : mark ≠ '\n')
    (first : newline = false → body.head? ≠ some '\n') :
    dropNewline ((if newline then ['\n'] else []) ++ (body ++ (closingMarks mark .lines ++ rest))) =
      body ++ (closingMarks mark .lines ++ rest) := by
  cases newline with
  | true => rfl
  | false =>
    have head : (body ++ (closingMarks mark .lines ++ rest)).head? ≠ some '\n' := by
      cases body with
      | nil => simpa [closingMarks] using printable
      | cons d body => exact first rfl
    change dropNewline (body ++ (closingMarks mark .lines ++ rest)) = _
    unfold dropNewline
    split <;> rename_i same
    · exact absurd (congrArg List.head? same) head
    · rfl

theorem head_of_no_newline (none_ : s.contains '\n' = false) : s.head? ≠ some '\n' := by
  intro first
  have member := List.mem_of_head? first
  simp [member] at none_

theorem enclose_line_append (newline : Bool) :
    enclose mark .line newline body ++ rest =
      mark :: (body ++ (closingMarks mark .line ++ rest)) := by
  simp [enclose, closingMarks]

theorem enclose_lines_append (newline : Bool) :
    enclose mark .lines newline body ++ rest = mark :: mark :: mark ::
      ((if newline then ['\n'] else []) ++ (body ++ (closingMarks mark .lines ++ rest))) := by
  simp [enclose, closingMarks]

theorem readString_escaped (extent : Extent) (s : List Char) (ends : rest.head? ≠ some '"') :
    readString (enclose '"' extent (s.contains '\n') (escapeFrom extent 0 s) ++ rest) =
      some (.ofList s, rest) := by
  cases extent with
  | line =>
    rw [enclose_line_append, readString_quote (not_opening (head_escapeFrom_line s) ends),
      readEscaped_escapeFrom (Nat.le_refl 0) ends]
    rfl
  | lines =>
    rw [enclose_lines_append]
    change textOf (readEscaped .lines .text (dropNewline _)) = _
    rw [dropNewline_body (by decide), readEscaped_escapeFrom (Nat.zero_le _) ends]
    · rfl
    · intro none_ first
      rcases head_escapeFrom .lines 0 s _ first with backslash | head
      · cases backslash
      · exact head_of_no_newline none_ head

theorem readString_verbatim (style : styleOf s = .verbatim extent)
    (ends : rest.head? ≠ some '\'') :
    readString (enclose '\'' extent (s.contains '\n') s ++ rest) = some (.ofList s, rest) := by
  obtain ⟨shown, unmarked⟩ := styleOf_verbatim style
  cases extent with
  | line =>
    have first : s.head? ≠ some '\'' := fun head => unmarked (List.mem_of_head? head)
    rw [enclose_line_append, readString_apostrophe (not_opening first ends),
      readVerbatim_line shown unmarked]
    rfl
  | lines =>
    rw [enclose_lines_append]
    change textOf (readVerbatim .lines (dropNewline _)) = _
    rw [dropNewline_body (by decide) head_of_no_newline, readVerbatim_lines shown unmarked ends]
    rfl

theorem readString_writeString (s : List Char)
    (ends : ∀ c ∈ rest.head?, c ≠ '"' ∧ c ≠ '\'') :
    readString (writeString s ++ rest) = some (.ofList s, rest) := by
  unfold writeString
  split <;> rename_i style
  · exact readString_escaped _ s fun head => (ends _ head).1 rfl
  · exact readString_verbatim style fun head => (ends _ head).2 rfl

theorem carriage_not_shown {c : Char} (shown : IsShown extent c) : c ≠ '\r' := by
  rintro rfl
  rcases shown with plain | ⟨-, newline⟩
  · cases plain
  · cases newline

theorem carriage_not_mem_escapeChar {c : Char} (escaped : IsEscaped c) :
    '\r' ∉ escapeChar c := by
  have hexDigit_ne {d : Nat} (digit : d < 16) : '\r' ≠ Text.hexDigit d := by
    revert d
    decide
  rcases escapeChar_cases escaped with ⟨e, short, written⟩ | ⟨bound, written⟩
  · simp [written, Ne.symm (ne_of_short short (show shortEscape? '\r' = none from rfl))]
  · have high := hexDigit_ne (show c.toNat / 16 < 16 by omega)
    have low := hexDigit_ne (show c.toNat % 16 < 16 by omega)
    simp [written, high, low]

theorem carriage_not_mem_escapeFrom (extent : Extent) (run : Nat) (s : List Char) :
    '\r' ∉ escapeFrom extent run s := by
  induction s generalizing run with
  | nil => exact List.not_mem_nil
  | cons c s ih =>
    rcases escapeFrom_cons extent run c s with
      ⟨rfl, -, written⟩ | ⟨-, -, shown, written⟩ | ⟨escaped, written⟩
    · simp [written, ih]
    · simp [written, ih, (carriage_not_shown shown).symm]
    · simp [written, ih, carriage_not_mem_escapeChar escaped]

theorem carriage_not_mem_enclose (printable : mark ≠ '\r') (newline : Bool)
    (absent : '\r' ∉ body) : '\r' ∉ enclose mark extent newline body := by
  cases extent with
  | line => simp [enclose, absent, printable.symm]
  | lines => cases newline <;> simp [enclose, absent, printable.symm]

theorem carriage_not_mem_writeString (s : List Char) : '\r' ∉ writeString s := by
  unfold writeString
  split <;> rename_i style
  · exact carriage_not_mem_enclose (by decide) _ (carriage_not_mem_escapeFrom _ 0 s)
  · refine carriage_not_mem_enclose (by decide) _ fun member => ?_
    exact carriage_not_shown ((styleOf_verbatim style).1 _ member) rfl

end

end SiteCache.Toml
