import SiteCache.Proofs.Text.Blank
import SiteCache.Proofs.Text.Utf8

set_option autoImplicit false

namespace SiteCache.Text

/-- Texts that differ in the case of ASCII letters alone. -/
def CaseVariant (a b : String) : Prop := a.toList.map Char.toLower = b.toList.map Char.toLower

theorem toLower_cases (c : Char) :
    (65 ≤ c.toNat ∧ c.toNat ≤ 90 ∧ c.toLower.toNat = c.toNat + 32) ∨
      (¬ (65 ≤ c.toNat ∧ c.toNat ≤ 90) ∧ c.toLower = c) := by
  by_cases letter : c.val ≥ 'A'.val ∧ c.val ≤ 'Z'.val
  · left
    have low : 65 ≤ c.toNat := UInt32.le_iff_toNat_le.mp letter.1
    have high : c.toNat ≤ 90 := UInt32.le_iff_toNat_le.mp letter.2
    refine ⟨low, high, ?_⟩
    have step : ('a'.val - 'A'.val).toNat = 32 := rfl
    have moved : c.toLower.val = c.val + ('a'.val - 'A'.val) :=
      congrArg Char.val (dif_pos letter)
    change c.toLower.val.toNat = c.val.toNat + 32
    change c.val.toNat ≤ 90 at high
    rw [moved, UInt32.toNat_add, step]
    omega
  · right
    refine ⟨fun range => letter ?_, dif_neg letter⟩
    exact ⟨UInt32.le_iff_toNat_le.mpr range.1, UInt32.le_iff_toNat_le.mpr range.2⟩

theorem isBlank_toLower (c : Char) : isBlank c.toLower = isBlank c := by
  rcases toLower_cases c with ⟨low, high, moved⟩ | ⟨-, same⟩
  · have blank (n : Nat) (range : 65 ≤ n ∧ n ≤ 122) (d : Char) (code : d.toNat = n) :
        isBlank d = false := by
      simp only [isBlank, code, Bool.or_eq_false_iff, Bool.and_eq_false_iff,
        decide_eq_false_iff_not, beq_eq_false_iff_ne]
      omega
    rw [blank _ (by omega) c rfl, blank _ (by omega) c.toLower moved]
  · rw [same]

theorem bare_map_toLower {s : List Char} : Bare (s.map Char.toLower) ↔ Bare s := by
  simp [Bare, isBlank_toLower]

theorem toLower_eq_nul {c : Char} : c.toLower = '\x00' ↔ c = '\x00' := by
  rcases toLower_cases c with ⟨low, -, moved⟩ | ⟨-, same⟩
  · refine iff_of_false ?_ ?_
    · intro nul
      rw [nul] at moved
      have zero : '\x00'.toNat = 0 := rfl
      omega
    · rintro rfl
      exact absurd low (by decide)
  · rw [same]

theorem nul_mem_map_toLower {s : List Char} : '\x00' ∈ s.map Char.toLower ↔ '\x00' ∈ s := by
  simp [List.mem_map, toLower_eq_nul]

namespace CaseVariant

variable {a b : String}

theorem bare_iff (variant : CaseVariant a b) : Bare a.toList ↔ Bare b.toList := by
  rw [← bare_map_toLower, variant, bare_map_toLower]

theorem nul_mem_iff (variant : CaseVariant a b) : '\x00' ∈ a.toList ↔ '\x00' ∈ b.toList := by
  rw [← nul_mem_map_toLower, variant, nul_mem_map_toLower]

end CaseVariant

theorem bare_trimmed (s : String) : Bare (trimmed s).toList := by
  rw [trimmed, String.toList_ofList]
  exact (trim_eq_iff.mp rfl).1

theorem trimmed_of_bare {s : String} (bare : Bare s.toList) : trimmed s = s := by
  rw [trimmed, trim_eq_self_iff.mpr bare, String.ofList_toList]

theorem mem_of_mem_trimmed {s : String} {c : Char} (member : c ∈ (trimmed s).toList) :
    c ∈ s.toList := by
  obtain ⟨-, before, after, whole, -⟩ := trim_eq_iff.mp (rfl : trim s.toList = trim s.toList)
  rw [trimmed, String.toList_ofList] at member
  rw [whole]
  simp [member]

end SiteCache.Text
