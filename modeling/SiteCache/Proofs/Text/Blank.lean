import Mathlib.Data.List.DropRight
import SiteCache.Text.Blank

set_option autoImplicit false

namespace SiteCache.Text

section

variable {p : Char → Bool} {s t : List Char}

theorem dropWhile_eq_iff :
    s.dropWhile p = t ↔ (∀ c ∈ t.head?, p c = false) ∧ ∃ gone, s = gone ++ t ∧ ∀ c ∈ gone, p c := by
  constructor
  · rintro rfl
    refine ⟨?_, s.takeWhile p, List.takeWhile_append_dropWhile.symm, ?_⟩
    · intro c first
      have stays := List.head?_dropWhile_not p s
      rw [Option.mem_def.mp first] at stays
      simpa using stays
    · exact fun c member => List.mem_takeWhile_imp member
  · rintro ⟨first, gone, rfl, cut⟩
    rw [List.dropWhile_append_of_pos cut]
    cases t with
    | nil => rfl
    | cons c t => simp [first c rfl]

theorem dropEndWhile_eq_iff :
    dropEndWhile p s = t ↔
      (∀ c ∈ t.getLast?, p c = false) ∧ ∃ gone, s = t ++ gone ∧ ∀ c ∈ gone, p c := by
  rw [dropEndWhile, List.reverse_eq_iff, dropWhile_eq_iff, List.head?_reverse]
  refine and_congr_right' ⟨?_, ?_⟩
  · rintro ⟨gone, cut, all⟩
    refine ⟨gone.reverse, ?_, by simpa using all⟩
    rw [List.reverse_eq_iff] at cut
    simpa using cut
  · rintro ⟨gone, rfl, all⟩
    exact ⟨gone.reverse, by simp, by simpa using all⟩

end

def Bare (s : List Char) : Prop :=
  (∀ c ∈ s.head?, isBlank c = false) ∧ ∀ c ∈ s.getLast?, isBlank c = false

theorem trim_eq_iff {s t : List Char} :
    trim s = t ↔ Bare t ∧ ∃ before after, s = before ++ t ++ after ∧
      (∀ c ∈ before, isBlank c) ∧ ∀ c ∈ after, isBlank c := by
  constructor
  · rintro rfl
    obtain ⟨first, before, split, blank⟩ := dropWhile_eq_iff.mp (rfl : trimStart s = trimStart s)
    obtain ⟨last, after, split', blank'⟩ := dropEndWhile_eq_iff.mp (rfl : trim s = trim s)
    refine ⟨⟨?_, last⟩, before, after, by rw [List.append_assoc, ← split', ← split], blank, blank'⟩
    intro c head
    refine first c ?_
    rw [split', List.head?_append, Option.mem_def.mp head]
    rfl
  · rintro ⟨⟨first, last⟩, before, after, rfl, blank, blank'⟩
    rw [trim, trimStart, List.append_assoc, List.dropWhile_append_of_pos blank]
    cases t with
    | nil =>
      rw [List.nil_append, List.dropWhile_eq_nil_iff.mpr blank']
      rfl
    | cons c t =>
      rw [List.cons_append, List.dropWhile_cons_of_neg (by simp [first c rfl])]
      exact dropEndWhile_eq_iff.mpr ⟨last, after, rfl, blank'⟩

theorem trim_eq_self_iff {s : List Char} : trim s = s ↔ Bare s := by
  rw [trim_eq_iff]
  exact and_iff_left ⟨[], [], by simp⟩

theorem length_trim_le (s : List Char) : (trim s).length ≤ s.length := by
  obtain ⟨-, before, after, split, -⟩ := trim_eq_iff.mp (rfl : trim s = trim s)
  have length := congrArg List.length split
  simp only [List.length_append] at length
  omega

theorem not_blank_of_digit {c : Char} (digit : c.isDigit = true) : isBlank c = false := by
  have range : 48 ≤ c.toNat ∧ c.toNat ≤ 57 := by
    simp only [Char.isDigit, Bool.and_eq_true, decide_eq_true_eq, UInt32.le_iff_toNat_le] at digit
    exact digit
  simp only [isBlank]
  generalize c.toNat = code at range ⊢
  simp only [Bool.or_eq_false_iff, Bool.and_eq_false_iff, decide_eq_false_iff_not,
    beq_eq_false_iff_ne]
  omega

end SiteCache.Text
