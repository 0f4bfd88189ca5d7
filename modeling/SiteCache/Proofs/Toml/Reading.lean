import SiteCache.Proofs.Toml.Quoted
import SiteCache.Proofs.Toml.Scalar
import SiteCache.Toml.Reading
import SiteCache.Toml.Writing

set_option autoImplicit false

namespace SiteCache.Toml

-- Numbers of 64 bits.
def InRange (n : Int) : Prop := -(Text.maxInt64 : Int) - 1 ≤ n ∧ n ≤ Text.maxInt64

def Setting.Fits : Setting → Prop
  | .text _ => True
  | .number n => InRange n
  | .numbers ns => ∀ n ∈ ns, InRange n

def numberValue (n : Int) : Value := .integer (Int64.ofInt n)

def Setting.value : Setting → Value
  | .text s => .string s
  | .number n => numberValue n
  | .numbers ns => .array (ns.map numberValue)

def Begins (c : Char) : Prop := isSpace c = false ∧ c ≠ '#' ∧ c ≠ '\n'

section

variable {c : Char} {s rest spaces : List Char}

def Numeric (c : Char) : Prop := c.isDigit ∨ c = '-'

theorem Numeric.ne (numeric : Numeric c) {d : Char} (other : d.isDigit = false ∧ d ≠ '-') :
    c ≠ d := by
  rintro rfl
  rcases numeric with digit | minus
  · cases other.1.symm.trans digit
  · exact other.2 minus

theorem Numeric.begins (numeric : Numeric c) : Begins c := by
  have tab := numeric.ne (show '\t'.isDigit = false ∧ '\t' ≠ '-' by decide)
  have space := numeric.ne (show ' '.isDigit = false ∧ ' ' ≠ '-' by decide)
  exact ⟨by simp [isSpace, tab, space], numeric.ne (by decide), numeric.ne (by decide)⟩

theorem exists_numeric (n : Int) : ∃ c s, Text.signedDigits n = c :: s ∧ Numeric c := by
  cases n with
  | ofNat n =>
    obtain ⟨c, s, written, digit⟩ :=
      Text.exists_cons_of_digits (Text.digits_digitsOf n) (Text.digitsOf_ne_nil n)
    exact ⟨c, s, written, .inl digit⟩
  | negSucc n => exact ⟨'-', _, rfl, .inr rfl⟩

theorem skipSpace_here (begins : Begins c) (s : List Char) : skipSpace (c :: s) = c :: s :=
  List.dropWhile_cons_of_neg (by simp [begins.1])

theorem skipSpace_append (blank : ∀ d ∈ spaces, isSpace d) (s : List Char) :
    skipSpace (spaces ++ s) = skipSpace s := List.dropWhile_append_of_pos blank

theorem skipComment_of_begins (begins : c ≠ '#') : skipComment (c :: s) = some (c :: s) := by
  unfold skipComment
  split <;> rename_i same
  · exact absurd (List.cons.inj same).1 begins
  · rfl

theorem layout_of_begins (begins : Begins c) (blank : ∀ d ∈ spaces, isSpace d) :
    layout (spaces ++ c :: s) = some (c :: s) := by
  rw [layout, skipLayout, skipSpace_append blank, skipSpace_here begins,
    skipComment_of_begins begins.2.1]
  split <;> rename_i same
  · exact absurd (List.cons.inj (Option.some.inj same)).1 begins.2.2
  · rfl

theorem layout_here (begins : Begins c) (s : List Char) : layout (c :: s) = some (c :: s) := by
  have nothing : ∀ d ∈ ([] : List Char), isSpace d := by simp
  exact layout_of_begins begins nothing

theorem readString_unquoted (quote : c ≠ '"') (apostrophe : c ≠ '\'') :
    readString (c :: s) = none := by
  unfold readString
  split <;> rename_i same
  · exact absurd (List.cons.inj same).1 quote
  · exact absurd (List.cons.inj same).1 apostrophe
  · unfold readLineString
    split <;> rename_i same'
    · exact absurd (List.cons.inj same').1 quote
    · exact absurd (List.cons.inj same').1 apostrophe
    · rfl

theorem readValue_number (depth : Nat) {n : Int} (range : InRange n) (follows : Follows rest) :
    readValue depth (Text.signedDigits n ++ rest) = some (numberValue n, rest) := by
  have scalar := readScalar_signedDigits range.1 range.2 follows
  obtain ⟨c, s, written, numeric⟩ := exists_numeric n
  rw [written, List.cons_append] at scalar ⊢
  unfold readValue
  rw [readString_unquoted (numeric.ne (by decide)) (numeric.ne (by decide))]
  dsimp only
  split <;> rename_i same
  · exact absurd (List.cons.inj same).1 (numeric.ne (by decide))
  · exact absurd (List.cons.inj same).1 (numeric.ne (by decide))
  · exact scalar

theorem readValue_string (depth : Nat) (s : List Char) (follows : Follows rest) :
    readValue depth (writeString s ++ rest) = some (.string (.ofList s), rest) := by
  have read : readString (writeString s ++ rest) = some (.ofList s, rest) := by
    refine readString_writeString s fun c first => ?_
    rcases follows c first with rfl | rfl | rfl <;> decide
  unfold readValue
  rw [read]

theorem readValue_array (depth : Nat) {items : List Value}
    (read : readItems (readValue depth) (s.length + 1) s = some (items, rest)) :
    readValue (depth + 1) ('[' :: s) = some (.array items, rest) := by
  unfold readValue
  rw [readString_unquoted (by decide) (by decide)]
  simp only [read, Option.map_some]

theorem readItems_close (inner : Inner) (fuel : Nat) (rest : List Char) :
    readItems inner (fuel + 1) (']' :: rest) = some ([], rest) := by
  have stop : layout (']' :: rest) = some (']' :: rest) :=
    layout_here ⟨rfl, by decide, by decide⟩ rest
  simp [readItems, stop]

theorem readItems_newline (inner : Inner) (fuel : Nat) (s : List Char) :
    readItems inner fuel ('\n' :: s) = readItems inner fuel s := by
  cases fuel <;> rfl

theorem readItems_more {depth fuel : Nat} {n : Int} {items : List Value} {more : List Char}
    (range : InRange n) (blank : ∀ d ∈ spaces, isSpace d)
    (others : readItems (readValue depth) fuel more = some (items, rest)) :
    readItems (readValue depth) (fuel + 1) (spaces ++ (Text.signedDigits n ++ ',' :: more)) =
      some (numberValue n :: items, rest) := by
  have item : readValue depth (Text.signedDigits n ++ ',' :: more) =
      some (numberValue n, ',' :: more) := readValue_number depth range (by simp [Follows])
  have comma : layout (',' :: more) = some (',' :: more) :=
    layout_here ⟨rfl, by decide, by decide⟩ more
  obtain ⟨c, s, written, numeric⟩ := exists_numeric n
  rw [written, List.cons_append] at item ⊢
  simp [readItems, layout_of_begins numeric.begins blank, item, comma, others,
    numeric.ne (show ']'.isDigit = false ∧ ']' ≠ '-' by decide)]

theorem readItems_last {depth fuel : Nat} {n : Int} (range : InRange n) :
    readItems (readValue depth) (fuel + 1) (Text.signedDigits n ++ ']' :: rest) =
      some ([numberValue n], rest) := by
  have item : readValue depth (Text.signedDigits n ++ ']' :: rest) =
      some (numberValue n, ']' :: rest) := readValue_number depth range (by simp [Follows])
  have stop : layout (']' :: rest) = some (']' :: rest) :=
    layout_here ⟨rfl, by decide, by decide⟩ rest
  obtain ⟨c, s, written, numeric⟩ := exists_numeric n
  rw [written, List.cons_append] at item ⊢
  simp [readItems, layout_here numeric.begins, item, stop,
    numeric.ne (show ']'.isDigit = false ∧ ']' ≠ '-' by decide)]

def indent : List Char := "    ".toList

def numberLine (n : Int) : List Char := indent ++ Text.signedDigits n ++ [',', '\n']

theorem readItems_lines {depth fuel : Nat} {ns : List Int} (enough : ns.length < fuel)
    (range : ∀ n ∈ ns, InRange n) :
    readItems (readValue depth) fuel (ns.flatMap numberLine ++ ']' :: rest) =
      some (ns.map numberValue, rest) := by
  induction ns generalizing fuel with
  | nil =>
    obtain ⟨fuel, rfl⟩ := Nat.exists_eq_succ_of_ne_zero (Nat.ne_of_gt enough)
    exact readItems_close _ fuel rest
  | cons n ns ih =>
    obtain ⟨fuel, rfl⟩ := Nat.exists_eq_succ_of_ne_zero (Nat.ne_of_gt (Nat.zero_lt_of_lt enough))
    obtain ⟨first, range⟩ := List.forall_mem_cons.mp range
    have others := ih (Nat.lt_of_succ_lt_succ enough) range
    rw [← readItems_newline] at others
    have blank : ∀ d ∈ indent, isSpace d := List.all_eq_true.mp rfl
    have read := readItems_more first blank others
    simpa [numberLine] using read

theorem length_le_numberLines (ns : List Int) : ns.length ≤ (ns.flatMap numberLine).length := by
  induction ns with
  | nil => exact Nat.le_refl 0
  | cons n ns ih =>
    simp only [List.flatMap_cons, List.length_append, List.length_cons, numberLine]
    omega

theorem writeNumbers_lines (n m : Int) (ns : List Int) :
    writeNumbers (n :: m :: ns) = '[' :: '\n' :: ((n :: m :: ns).flatMap numberLine ++ [']']) := rfl

theorem readValue_numbers (depth : Nat) {ns : List Int} (range : ∀ n ∈ ns, InRange n) :
    readValue (depth + 1) (writeNumbers ns ++ rest) =
      some (.array (ns.map numberValue), rest) := by
  match ns with
  | [] => exact readValue_array depth (readItems_close _ _ rest)
  | [n] =>
    have whole : writeNumbers [n] ++ rest = '[' :: (Text.signedDigits n ++ ']' :: rest) := by
      simp [writeNumbers]
    rw [whole]
    exact readValue_array depth (readItems_last (range n List.mem_cons_self))
  | n :: m :: ns =>
    have whole : writeNumbers (n :: m :: ns) ++ rest =
        '[' :: '\n' :: ((n :: m :: ns).flatMap numberLine ++ ']' :: rest) := by
      simp [writeNumbers_lines]
    rw [whole]
    refine readValue_array depth ?_
    rw [readItems_newline]
    refine readItems_lines ?_ range
    have short := length_le_numberLines (n :: m :: ns)
    calc (n :: m :: ns).length ≤ ((n :: m :: ns).flatMap numberLine).length := short
      _ < _ := by
        simp only [List.length_cons, List.length_append]
        omega

theorem readValue_setting (depth : Nat) {setting : Setting} (fits : setting.Fits)
    (follows : Follows rest) :
    readValue (depth + 1) (setting.write ++ rest) = some (setting.value, rest) := by
  cases setting with
  | text s =>
    have read := readValue_string (depth + 1) s.toList follows
    rwa [String.ofList_toList] at read
  | number n => exact readValue_number (depth + 1) fits follows
  | numbers ns => exact readValue_numbers depth fits

theorem enclose_begins (mark : Char) (extent : Extent) (newline : Bool) (body : List Char) :
    ∃ s, enclose mark extent newline body = mark :: s := by
  cases extent <;> exact ⟨_, rfl⟩

theorem setting_begins (setting : Setting) : ∃ c s, setting.write = c :: s ∧ Begins c := by
  cases setting with
  | text s =>
    rw [Setting.write, writeString]
    split
    · obtain ⟨t, written⟩ := enclose_begins '"' _ _ _
      exact ⟨_, t, written, by decide, by decide, by decide⟩
    · obtain ⟨t, written⟩ := enclose_begins '\'' _ _ _
      exact ⟨_, t, written, by decide, by decide, by decide⟩
  | number n =>
    obtain ⟨c, s, written, numeric⟩ := exists_numeric n
    exact ⟨c, s, written, numeric.begins⟩
  | numbers ns =>
    obtain ⟨t, written⟩ : ∃ t, writeNumbers ns = '[' :: t := by
      match ns with
      | [] | [_] | _ :: _ :: _ => exact ⟨_, rfl⟩
    exact ⟨_, t, written, by decide, by decide, by decide⟩

end

def IsBare (name : String) : Prop := name.toList ≠ [] ∧ ∀ c ∈ name.toList, isKeyChar c

instance (name : String) : Decidable (IsBare name) :=
  decidable_of_iff (name.toList ≠ [] ∧ name.toList.all isKeyChar) (by simp [IsBare])

section

variable {name : String} {s rest : List Char}

theorem begins_of_keyChar {c : Char} (key : isKeyChar c) : Begins c ∧ c ≠ '[' := by
  have other {d : Char} (symbol : isKeyChar d = false) : c ≠ d := by
    rintro rfl
    cases symbol.symm.trans key
  have tab : c ≠ '\t' := other (by decide)
  have space : c ≠ ' ' := other (by decide)
  exact ⟨⟨by simp [isSpace, tab, space], other (by decide), other (by decide)⟩, other (by decide)⟩

theorem exists_keyChar (bare : IsBare name) :
    ∃ c s, name.toList = c :: s ∧ Begins c ∧ c ≠ '[' := by
  obtain ⟨c, s, written⟩ := List.exists_cons_of_ne_nil bare.1
  have key := bare.2 c (by rw [written]; exact List.mem_cons_self)
  exact ⟨c, s, written, begins_of_keyChar key⟩

theorem readKey_bare (bare : IsBare name) {c : Char} (ends : isKeyChar c = false)
    (last : ∀ t, skipSpace (c :: rest) ≠ '.' :: t) :
    readKey (name.toList ++ c :: rest) = some (⟨[], name⟩, skipSpace (c :: rest)) := by
  obtain ⟨d, t, written, begins, -⟩ := exists_keyChar bare
  have start : skipSpace (name.toList ++ c :: rest) = name.toList ++ c :: rest := by
    rw [written, List.cons_append, skipSpace_here begins]
  have front : (name.toList ++ c :: rest).takeWhile isKeyChar = name.toList := by
    simp [List.takeWhile_append_of_pos bare.2, ends]
  have back : (name.toList ++ c :: rest).dropWhile isKeyChar = c :: rest := by
    rw [List.dropWhile_append_of_pos bare.2, List.dropWhile_cons_of_neg (by simp [ends])]
  have part : readKeyPart (name.toList ++ c :: rest) = some (name, c :: rest) := by
    unfold readKeyPart
    rw [front, back]
    split <;> rename_i same
    · exact absurd same bare.1
    · rw [String.ofList_toList]
  have parts : readKeyParts ((name.toList ++ c :: rest).length + 1) (name.toList ++ c :: rest) =
      some ([name], skipSpace (c :: rest)) := by
    rw [readKeyParts, start, part]
    dsimp only
    split <;> rename_i same
    · exact absurd same (last _)
    · rfl
  rw [readKey, parts]
  rfl

theorem readLine_header (bare : IsBare name) (rest : List Char) :
    readLine ('[' :: (name.toList ++ ']' :: rest)) = some (.header ⟨[], name⟩, rest) := by
  obtain ⟨c, t, written, -, bracket⟩ := exists_keyChar bare
  have key : readKey (name.toList ++ ']' :: rest) = some (⟨[], name⟩, ']' :: rest) :=
    readKey_bare bare rfl nofun
  change readHeader _ = _
  rw [written, List.cons_append] at key ⊢
  unfold readHeader
  split <;> rename_i same
  · exact absurd (List.cons.inj same).1 bracket
  · simp [key]

theorem readLine_pair (bare : IsBare name) {setting : Setting} (fits : setting.Fits)
    (follows : Follows rest) :
    readLine (name.toList ++ (" = ".toList ++ (setting.write ++ rest))) =
      some (.pair ⟨[], name⟩ setting.value, rest) := by
  obtain ⟨c, t, written, -, bracket⟩ := exists_keyChar bare
  obtain ⟨d, u, written', begins⟩ := setting_begins setting
  have key : readKey (name.toList ++ (" = ".toList ++ (setting.write ++ rest))) =
      some (⟨[], name⟩, '=' :: ' ' :: (setting.write ++ rest)) := readKey_bare bare rfl nofun
  have start : skipSpace (' ' :: (setting.write ++ rest)) = setting.write ++ rest := by
    rw [written', List.cons_append]
    exact skipSpace_here begins (u ++ rest)
  have value := readValue_setting 78 fits follows
  have pair : readPair (readValue (depthLimit - 1))
      (name.toList ++ (" = ".toList ++ (setting.write ++ rest))) =
        some ((⟨[], name⟩, setting.value), rest) := by
    rw [readPair, key]
    simp [start, depthLimit, value]
  unfold readLine
  split <;> rename_i same
  · rw [written, List.cons_append] at same
    exact absurd (List.cons.inj same).1 bracket
  · rw [pair]
    rfl

end

-- A text of these lines, whatever the fuel it is read with.
def HasLines (s : List Char) (lines : List Line) : Prop :=
  ∀ fuel, s.length < fuel → readLines fuel s = some lines

section

variable {s : List Char} {lines : List Line}

theorem hasLines_nil : HasLines [] [] := by
  intro fuel enough
  obtain ⟨fuel, rfl⟩ := Nat.exists_eq_succ_of_ne_zero (Nat.ne_of_gt enough)
  rfl

theorem HasLines.blank (rest : HasLines s lines) : HasLines ('\n' :: s) lines := by
  intro fuel enough
  obtain ⟨fuel, rfl⟩ := Nat.exists_eq_succ_of_ne_zero (Nat.ne_of_gt (Nat.zero_lt_of_lt enough))
  exact rest fuel (Nat.lt_of_succ_lt_succ enough)

theorem HasLines.line {c : Char} {t : List Char} {line : Line} (rest : HasLines s lines)
    (begins : Begins c) (read : readLine (c :: t ++ '\n' :: s) = some (line, '\n' :: s)) :
    HasLines (c :: t ++ '\n' :: s) (line :: lines) := by
  intro fuel enough
  obtain ⟨fuel, rfl⟩ := Nat.exists_eq_succ_of_ne_zero (Nat.ne_of_gt (Nat.zero_lt_of_lt enough))
  have more : readLines fuel s = some lines := by
    refine rest fuel ?_
    simp only [List.length_cons, List.length_append] at enough
    omega
  have ended : endLine ('\n' :: s) = some s := rfl
  rw [List.cons_append] at read ⊢
  rw [readLines, skipSpace_here begins, skipComment_of_begins begins.2.1]
  simp [read, ended, more, begins.2.2]

end

end SiteCache.Toml
