import SiteCache.Proofs.Toml.Reading

set_option autoImplicit false

namespace SiteCache.Toml

-- What makes a section one that can be read again: names that need no quotes, no name twice, and
-- numbers of 64 bits.
structure Section.Readable (s : Section) : Prop where
  bare : IsBare s.name
  bareKeys : ∀ key ∈ s.settings.map Prod.fst, IsBare key
  fits : ∀ e ∈ s.settings, e.2.Fits
  distinct : (s.settings.map Prod.fst).Nodup

def pairLine (e : String × Setting) : Line := .pair ⟨[], e.1⟩ e.2.value

def Section.lines (s : Section) : List Line := .header ⟨[], s.name⟩ :: s.settings.map pairLine

def settingEntry (e : String × Setting) : String × Value := (e.1, e.2.value)

def Section.entry (s : Section) : String × Value :=
  (s.name, .table .defined (s.settings.map settingEntry))

section

variable {s : List Char} {lines : List Line}

def writePair (e : String × Setting) : List Char :=
  e.1.toList ++ " = ".toList ++ e.2.write ++ ['\n']

theorem section_write (sec : Section) :
    sec.write = '[' :: sec.name.toList ++ [']', '\n'] ++ sec.settings.flatMap writePair := rfl

theorem hasLines_pair {e : String × Setting} (bare : IsBare e.1) (fits : e.2.Fits)
    (rest : HasLines s lines) : HasLines (writePair e ++ s) (pairLine e :: lines) := by
  obtain ⟨c, t, written, begins, -⟩ := exists_keyChar bare
  have follows : Follows ('\n' :: s) := by simp [Follows]
  have read := readLine_pair bare fits follows
  have whole : writePair e ++ s =
      c :: (t ++ " = ".toList ++ e.2.write) ++ '\n' :: s := by
    simp [writePair, written]
  rw [whole]
  refine rest.line begins ?_
  simpa [pairLine, written] using read

theorem hasLines_pairs {settings : List (String × Setting)} (bare : ∀ e ∈ settings, IsBare e.1)
    (fits : ∀ e ∈ settings, e.2.Fits) (rest : HasLines s lines) :
    HasLines (settings.flatMap writePair ++ s) (settings.map pairLine ++ lines) := by
  induction settings with
  | nil => exact rest
  | cons e settings ih =>
    obtain ⟨bare, bares⟩ := List.forall_mem_cons.mp bare
    obtain ⟨fits, others⟩ := List.forall_mem_cons.mp fits
    rw [List.flatMap_cons, List.append_assoc]
    exact hasLines_pair bare fits (ih bares others)

theorem hasLines_section {sec : Section} (readable : sec.Readable) (rest : HasLines s lines) :
    HasLines (sec.write ++ s) (sec.lines ++ lines) := by
  have pairs := hasLines_pairs (List.forall_mem_map.mp readable.bareKeys) readable.fits rest
  have whole : sec.write ++ s = '[' :: (sec.name.toList ++ [']']) ++
      '\n' :: (sec.settings.flatMap writePair ++ s) := by
    simp [section_write]
  rw [whole]
  refine pairs.line ⟨by decide, by decide, by decide⟩ ?_
  have read := readLine_header readable.bare ('\n' :: (sec.settings.flatMap writePair ++ s))
  simpa using read

theorem hasLines_sections {sections : List Section} (readable : ∀ sec ∈ sections, sec.Readable) :
    HasLines (List.intercalate ['\n'] (sections.map Section.write))
      (sections.flatMap Section.lines) := by
  induction sections with
  | nil => exact hasLines_nil
  | cons sec sections ih =>
    obtain ⟨first, others⟩ := List.forall_mem_cons.mp readable
    cases sections with
    | nil =>
      have alone := hasLines_section first hasLines_nil
      simpa using alone
    | cons next sections =>
      have more := hasLines_section first (ih others).blank
      simpa [List.intercalate_cons_cons] using more

end

theorem unifyNewlines_of_none {s : List Char} (none : '\r' ∉ s) : unifyNewlines s = s := by
  induction s with
  | nil => rfl
  | cons c s ih =>
    rw [List.mem_cons, not_or] at none
    rw [unifyNewlines, if_neg fun both => none.1 both.1.symm, ih none.2]

theorem carriage_not_mem_signedDigits (n : Int) : '\r' ∉ Text.signedDigits n := by
  have unsigned (m : Nat) : '\r' ∉ Text.digitsOf m := fun mem =>
    absurd (Text.digits_digitsOf m _ mem) (by decide)
  cases n with
  | ofNat m => exact unsigned m
  | negSucc m =>
    rw [Text.signedDigits, List.mem_cons, not_or]
    exact ⟨by decide, unsigned _⟩

theorem carriage_not_mem_numberLine (n : Int) : '\r' ∉ numberLine n := by
  have spaces : '\r' ∉ indent := by decide
  simp [numberLine, spaces, carriage_not_mem_signedDigits]

theorem carriage_not_mem_setting (setting : Setting) : '\r' ∉ setting.write := by
  cases setting with
  | text s => exact carriage_not_mem_writeString s.toList
  | number n => exact carriage_not_mem_signedDigits n
  | numbers ns =>
    match ns with
    | [] => decide
    | [n] => simp [Setting.write, writeNumbers, carriage_not_mem_signedDigits]
    | n :: m :: ns => simp [Setting.write, writeNumbers_lines, carriage_not_mem_numberLine]

theorem carriage_not_mem_name {name : String} (bare : IsBare name) : '\r' ∉ name.toList :=
  fun mem => absurd (bare.2 _ mem) (by decide)

theorem carriage_not_mem_section {sec : Section} (readable : sec.Readable) :
    '\r' ∉ sec.write := by
  have pairs : '\r' ∉ sec.settings.flatMap writePair := by
    intro mem
    obtain ⟨e, listed, mem⟩ := List.mem_flatMap.mp mem
    have key := readable.bareKeys e.1 (List.mem_map_of_mem listed)
    simp [writePair, carriage_not_mem_name key, carriage_not_mem_setting] at mem
  simp [section_write, carriage_not_mem_name readable.bare, pairs]

theorem carriage_not_mem_sections {sections : List Section}
    (readable : ∀ sec ∈ sections, sec.Readable) :
    '\r' ∉ List.intercalate ['\n'] (sections.map Section.write) := by
  induction sections with
  | nil => decide
  | cons sec sections ih =>
    obtain ⟨first, others⟩ := List.forall_mem_cons.mp readable
    have here := carriage_not_mem_section first
    cases sections with
    | nil => simpa using here
    | cons next sections => simpa [List.intercalate_cons_cons, here] using ih others

theorem dropMark_sections (sections : List Section) :
    dropMark (List.intercalate ['\n'] (sections.map Section.write)) =
      List.intercalate ['\n'] (sections.map Section.write) := by
  have bracket (s : List Char) : dropMark ('[' :: s) = '[' :: s := by
    rw [dropMark, if_neg (by decide)]
  match sections with
  | [] => rfl
  | [_] | _ :: _ :: _ => exact bracket _

section

variable {entries front inner : Entries} {key name : String} {value value' : Value}
  {change : Option Value → Option Value}

theorem alter_new (new : key ∉ entries.map Prod.fst) (made : change none = some value) :
    entries.alter key change = some (entries ++ [(key, value)]) := by
  induction entries with
  | nil => simp [Entries.alter, made]
  | cons e entries ih =>
    rw [List.map_cons, List.mem_cons, not_or] at new
    rw [Entries.alter, if_neg (Ne.symm new.1), ih new.2]
    rfl

theorem alter_last (new : key ∉ front.map Prod.fst) (made : change (some value) = some value') :
    Entries.alter (front ++ [(key, value)]) key change = some (front ++ [(key, value')]) := by
  induction front with
  | nil => simp [Entries.alter, made]
  | cons e front ih =>
    rw [List.map_cons, List.mem_cons, not_or] at new
    rw [List.cons_append, Entries.alter, if_neg (Ne.symm new.1), ih new.2]
    rfl

theorem add_header (new : name ∉ front.map Prod.fst) (current : List String) :
    Assembly.add ⟨front, current⟩ (.header ⟨[], name⟩) =
      some ⟨front ++ [(name, .table .defined [])], [name]⟩ := by
  have opened : openTable ⟨[], name⟩ .defined front =
      some (front ++ [(name, .table .defined [])]) := alter_new new rfl
  rw [Assembly.add, opened]
  rfl

theorem add_pair (other : name ∉ front.map Prod.fst) (new : key ∉ inner.map Prod.fst) :
    Assembly.add ⟨front ++ [(name, .table .defined inner)], [name]⟩ (.pair ⟨[], key⟩ value) =
      some ⟨front ++ [(name, .table .defined (inner ++ [(key, value)]))], [name]⟩ := by
  have added : addPair ⟨[], key⟩ value .defined inner = some (inner ++ [(key, value)]) :=
    alter_new new rfl
  have changed : changeAt .header [name] (addPair ⟨[], key⟩ value) .defined
      (front ++ [(name, .table .defined inner)]) =
        some (front ++ [(name, .table .defined (inner ++ [(key, value)]))]) := by
    refine alter_last other ?_
    simp [Way.passes, changeAt, added]
  rw [Assembly.add, changed]
  rfl

end

theorem fresh_of_nodup {names others : List String} {name : String}
    (distinct : (names ++ name :: others).Nodup) : name ∉ names := fun mem =>
  (List.nodup_append.mp distinct).2.2 name mem name List.mem_cons_self rfl

theorem add_pairs {front : Entries} {name : String} {settings : List (String × Setting)}
    (other : name ∉ front.map Prod.fst) (inner : Entries)
    (distinct : (inner.map Prod.fst ++ settings.map Prod.fst).Nodup) :
    (settings.map pairLine).foldlM Assembly.add
        ⟨front ++ [(name, .table .defined inner)], [name]⟩ =
      some ⟨front ++ [(name, .table .defined (inner ++ settings.map settingEntry))], [name]⟩ := by
  induction settings generalizing inner with
  | nil => simp
  | cons e settings ih =>
    have rest := ih (inner ++ [settingEntry e]) (by simpa [settingEntry] using distinct)
    rw [List.map_cons, List.foldlM_cons, pairLine, add_pair other (fresh_of_nodup distinct)]
    simpa [settingEntry] using rest

theorem add_sections {sections : List Section} (readable : ∀ sec ∈ sections, sec.Readable)
    (front : Entries) (current : List String)
    (distinct : (front.map Prod.fst ++ sections.map Section.name).Nodup) :
    ((sections.flatMap Section.lines).foldlM Assembly.add ⟨front, current⟩).map Assembly.entries =
      some (front ++ sections.map Section.entry) := by
  induction sections generalizing front current with
  | nil => simp
  | cons sec sections ih =>
    obtain ⟨first, others⟩ := List.forall_mem_cons.mp readable
    have new : sec.name ∉ front.map Prod.fst := fresh_of_nodup distinct
    have pairs := add_pairs new [] first.distinct
    have rest := ih others (front ++ [sec.entry]) [sec.name]
      (by simpa [Section.entry] using distinct)
    rw [List.flatMap_cons, List.foldlM_append, Section.lines, List.foldlM_cons,
      add_header new current]
    simpa [pairs, Section.entry] using rest

theorem read_write {sections : List Section} (readable : ∀ sec ∈ sections, sec.Readable)
    (distinct : (sections.map Section.name).Nodup) :
    read (write sections) = some (sections.map Section.entry) := by
  have lines := hasLines_sections readable _ (Nat.lt_succ_self _)
  have tables := add_sections readable [] [] (by simpa using distinct)
  rw [read, write, String.toList_ofList, dropMark_sections,
    unifyNewlines_of_none (carriage_not_mem_sections readable)]
  simpa [lines, assemble] using tables

end SiteCache.Toml
