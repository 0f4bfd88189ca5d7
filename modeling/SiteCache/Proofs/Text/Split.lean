import SiteCache.Text.Split

set_option autoImplicit false

namespace SiteCache.Text

variable {separates : Char → Bool}

theorem splitOn_eq (separates : Char → Bool) (s : List Char) :
    splitOn separates s = s.splitOnP separates := by
  induction s with
  | nil => rfl
  | cons c s ih =>
    rw [splitOn, ih, List.splitOnP_cons_eq_if_modifyHead]
    obtain ⟨part, parts, split⟩ := List.exists_cons_of_ne_nil (List.splitOnP_ne_nil separates s)
    rw [split]
    rfl

theorem splitOn_append_cons {c : Char} (separator : separates c = true) (s rest : List Char) :
    splitOn separates (s ++ c :: rest) = splitOn separates s ++ splitOn separates rest := by
  rw [splitOn_eq, splitOn_eq, splitOn_eq, List.splitOnP_append_cons s rest separator]

theorem splitOn_whole {s : List Char} (whole : ∀ c ∈ s, separates c = false) :
    splitOn separates s = [s] := by
  rw [splitOn_eq, List.splitOnP_eq_singleton whole]

theorem splitFirst?_append_cons {c : Char} {s : List Char} (separator : separates c = true)
    (whole : ∀ d ∈ s, separates d = false) (rest : List Char) :
    splitFirst? separates (s ++ c :: rest) = some (s, rest) := by
  induction s with
  | nil => exact if_pos separator
  | cons d s ih =>
    obtain ⟨head, tail⟩ := List.forall_mem_cons.mp whole
    rw [List.cons_append, splitFirst?, head, ih tail]
    rfl

end SiteCache.Text
