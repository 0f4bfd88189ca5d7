import SiteCache.Config.Overrides
import SiteCache.Proofs.Text.Numeral
import SiteCache.Proofs.Text.Split

set_option autoImplicit false

namespace SiteCache.Config

abbrev Blank (part : List Char) : Prop := ∀ c ∈ part, Text.isBlank c = true

-- A part that is `body` but for blanks around it.
def Padded (body part : List Char) : Prop :=
  ∃ before after, part = before ++ body ++ after ∧ Blank before ∧ Blank after

-- One part for each number, in a given form and padded, and blank parts anywhere among them.
inductive Lists (Form : List Char → Int64 → Prop) : List (List Char) → List Int64 → Prop
  | none : Lists Form [] []
  | blank {part : List Char} {parts : List (List Char)} {ids : List Int64} :
    Blank part → Lists Form parts ids → Lists Form (part :: parts) ids
  | number {body part : List Char} {parts : List (List Char)} {n : Int64} {ids : List Int64} :
    Form body n → Padded body part → Lists Form parts ids → Lists Form (part :: parts) (n :: ids)

def Decimal (body : List Char) (n : Int64) : Prop := body = Text.signedDigits n.toInt

def Literal (body : List Char) (n : Int64) : Prop := Text.IntNumeral body n.toInt

def Unreadable (part : List Char) : Prop :=
  ¬ Blank part ∧ ∀ body n, Padded body part → ¬ Literal body n

theorem Decimal.literal {body : List Char} {n : Int64} (decimal : Decimal body n) :
    Literal body n := by
  rw [decimal]
  exact Text.intNumeral_signedDigits n.toInt

theorem Lists.mono {Form Form' : List Char → Int64 → Prop} {parts : List (List Char)}
    {ids : List Int64} (weaker : ∀ body n, Form body n → Form' body n) (lists : Lists Form parts ids) :
    Lists Form' parts ids := by
  induction lists with
  | none => exact .none
  | blank blank _ ih => exact .blank blank ih
  | number form padded _ ih => exact .number (weaker _ _ form) padded ih

theorem trim_eq_nil {part : List Char} : Text.trim part = [] ↔ Blank part := by
  rw [Text.trim_eq_iff]
  constructor
  · rintro ⟨-, before, after, rfl, blank, blank'⟩
    simpa [Blank, or_imp, forall_and] using And.intro blank blank'
  · exact fun blank => ⟨⟨nofun, nofun⟩, part, [], by simp, blank, nofun⟩

theorem readInt64_trim {part : List Char} {n : Int64} :
    Text.readInt64 (Text.trim part) = .ok n ↔ ∃ body, Literal body n ∧ Padded body part := by
  rw [Text.readInt64_eq_ok]
  constructor
  · intro literal
    exact ⟨_, literal, (Text.trim_eq_iff.mp rfl).2⟩
  · rintro ⟨body, literal, padded⟩
    rwa [Text.trim_eq_iff.mpr ⟨literal.bare, padded⟩]

theorem not_blank_of_literal {body part : List Char} {n : Int64} (literal : Literal body n)
    (padded : Padded body part) : ¬ Blank part := by
  rw [← trim_eq_nil, Text.trim_eq_iff.mpr ⟨literal.bare, padded⟩]
  exact literal.ne_nil

theorem unreadable_iff {part : List Char} :
    Unreadable part ↔ Text.trim part ≠ [] ∧ (Text.readInt64 (Text.trim part)).toOption = none := by
  rw [Unreadable, Ne, trim_eq_nil]
  refine and_congr_right' ?_
  cases read : Text.readInt64 (Text.trim part) with
  | error e =>
    refine iff_of_true (fun body n padded literal => ?_) rfl
    exact nomatch read.symm.trans (readInt64_trim.mpr ⟨body, literal, padded⟩)
  | ok n =>
    obtain ⟨body, literal, padded⟩ := readInt64_trim.mp read
    exact iff_of_false (fun none => none body n padded literal) nofun

def readParts (parts : List (List Char)) : Option (List Int64) :=
  ((parts.map Text.trim).filter fun part => !part.isEmpty).mapM fun part =>
    (Text.readInt64 part).toOption

theorem readParts_of_blank {part : List Char} (blank : Blank part) (parts : List (List Char)) :
    readParts (part :: parts) = readParts parts := by
  simp [readParts, trim_eq_nil.mpr blank]

theorem readParts_of_not_blank {part : List Char} (written : ¬ Blank part)
    (parts : List (List Char)) :
    readParts (part :: parts) = (Text.readInt64 (Text.trim part)).toOption.bind fun n =>
      (readParts parts).bind fun ids => some (n :: ids) := by
  rw [← trim_eq_nil] at written
  simp [readParts, written, List.mapM_cons]

theorem readParts_eq_some {parts : List (List Char)} {ids : List Int64} :
    readParts parts = some ids ↔ Lists Literal parts ids := by
  induction parts generalizing ids with
  | nil =>
    constructor
    · rintro ⟨⟩
      exact .none
    · rintro ⟨⟩
      rfl
  | cons part parts ih =>
    by_cases blank : Blank part
    · rw [readParts_of_blank blank, ih]
      refine ⟨.blank blank, fun lists => ?_⟩
      cases lists with
      | blank _ rest => exact rest
      | number literal padded _ => exact absurd blank (not_blank_of_literal literal padded)
    · simp only [readParts_of_not_blank blank, Option.bind_eq_some_iff, Option.some.injEq, ih,
        Text.toOption_eq_some, readInt64_trim]
      constructor
      · rintro ⟨n, ⟨body, literal, padded⟩, ids, rest, rfl⟩
        exact .number literal padded rest
      · intro lists
        cases lists with
        | blank blank' _ => exact absurd blank' blank
        | number literal padded rest => exact ⟨_, ⟨_, literal, padded⟩, _, rest, rfl⟩

theorem readParts_of_unreadable {part : List Char} {parts : List (List Char)}
    (member : part ∈ parts) (unreadable : Unreadable part) : readParts parts = none := by
  refine Option.eq_none_iff_forall_ne_some.mpr fun ids read => ?_
  have lists := readParts_eq_some.mp read
  clear read
  induction lists with
  | none => cases member
  | blank blank _ ih =>
    rcases List.mem_cons.mp member with rfl | later
    · exact unreadable.1 blank
    · exact ih later
  | number literal padded _ ih =>
    rcases List.mem_cons.mp member with rfl | later
    · exact unreadable.2 _ _ padded literal
    · exact ih later

theorem splitOn_isComma (s : List Char) : Text.splitOn isComma s = s.splitOn ',' :=
  Text.splitOn_eq isComma s

theorem readSites_eq (s : String) : readSites s = readParts (s.toList.splitOn ',') := by
  rw [readSites, splitOn_isComma, readParts]

-- No comma is part of a numeral or a blank, so the parts are found again where they were joined.
theorem comma_not_mem_of_blank {part : List Char} (blank : Blank part) : ',' ∉ part :=
  fun member => nomatch blank ',' member

theorem Literal.comma_not_mem {body : List Char} {n : Int64} (literal : Literal body n) :
    ',' ∉ body := by
  intro member
  rcases literal.digit_or_sign ',' member with digit | sign | sign
  · cases digit
  · cases sign
  · cases sign

theorem Lists.comma_not_mem {parts : List (List Char)} {ids : List Int64}
    (lists : Lists Literal parts ids) : ∀ part ∈ parts, ',' ∉ part := by
  induction lists with
  | none => exact nofun
  | blank blank _ ih => exact List.forall_mem_cons.mpr ⟨comma_not_mem_of_blank blank, ih⟩
  | number literal padded _ ih =>
    refine List.forall_mem_cons.mpr ⟨?_, ih⟩
    obtain ⟨before, after, rfl, blank, blank'⟩ := padded
    simp [comma_not_mem_of_blank blank, comma_not_mem_of_blank blank', literal.comma_not_mem]

theorem readSites_intercalate {parts : List (List Char)} {ids : List Int64}
    (lists : Lists Literal parts ids) :
    readSites (.ofList ([','].intercalate parts)) = some ids := by
  rw [readSites_eq, String.toList_ofList]
  by_cases none : parts = []
  · subst none
    cases lists
    rfl
  · rw [List.splitOn_intercalate ',' lists.comma_not_mem none]
    exact readParts_eq_some.mpr lists

theorem override_sites (c : Config) (vars : Variables) :
    (∀ parts ids, Lists Decimal parts ids →
      vars sitesVariable = some (.ofList ([','].intercalate parts)) →
      (c.override vars).siteIds = ids) ∧
    ∀ text, vars sitesVariable = some text →
      (∃ part ∈ text.toList.splitOn ',', Unreadable part) →
      (c.override vars).siteIds = c.siteIds := by
  refine ⟨fun parts ids lists set => ?_, fun text set ⟨part, member, unreadable⟩ => ?_⟩
  · simp [override, Variables.read, set, readSites_intercalate (lists.mono fun _ _ => Decimal.literal)]
  · simp [override, Variables.read, set, readSites_eq, readParts_of_unreadable member unreadable]

def only (name text : String) : Variables := fun other =>
  if other = name then some text else none

theorem override_sites_extremes :
    (({ siteIds := [7] } : Config).override (only sitesVariable
      " 9223372036854775807,,-9223372036854775808\t, ")).siteIds =
        [9223372036854775807, -9223372036854775808] ∧
    (({ siteIds := [7] } : Config).override (only sitesVariable
      "1, 2 3")).siteIds = [7] := by
  constructor
  · refine (override_sites _ _).1 [" 9223372036854775807".toList, [], "-9223372036854775808\t".toList,
      [' ']] _ ?_ rfl
    have space : Blank [' '] := List.forall_mem_singleton.mpr rfl
    have tab : Blank ['\t'] := List.forall_mem_singleton.mpr rfl
    refine .number rfl ⟨[' '], [], by decide +kernel, space, nofun⟩ (.blank nofun ?_)
    exact .number rfl ⟨[], ['\t'], by decide +kernel, nofun, tab⟩ (.blank space .none)
  · refine (override_sites _ _).2 _ rfl ⟨" 2 3".toList, by decide, ?_⟩
    exact unreadable_iff.mpr (by decide)

end SiteCache.Config
