import Mathlib.Data.List.Basic
import SiteCache.Proofs.Fallible
import SiteCache.Url.Reading

set_option autoImplicit false

namespace SiteCache.Url

def Plain (s : String) : Prop := s ≠ "" ∧ ∀ c ∈ s.toList, c.isAlphanum = true ∨ c = '-'

def isPlain (s : String) : Bool := !s.isEmpty && s.toList.all fun c => c.isAlphanum || c = '-'

theorem isPlain_iff (s : String) : isPlain s = true ↔ Plain s := by
  simp [isPlain, Plain]

theorem percentEncode_eq_self {escaped : Char → Bool} {s : List Char}
    (unescaped : ∀ c ∈ s, escaped c = false) : percentEncode escaped s = s := by
  induction s with
  | nil => rfl
  | cons c s ih =>
    obtain ⟨head, tail⟩ := List.forall_mem_cons.mp unescaped
    rw [percentEncode, List.flatMap_cons, ← percentEncode, ih tail, head]
    rfl

theorem alphanum_bounds {c : Char} (alphanumeric : c.isAlphanum = true) :
    (65 ≤ c.toNat ∧ c.toNat ≤ 90 ∨ 97 ≤ c.toNat ∧ c.toNat ≤ 122) ∨
      48 ≤ c.toNat ∧ c.toNat ≤ 57 := by
  rcases Bool.or_eq_true_iff.mp alphanumeric with letter | digit
  · rcases Bool.or_eq_true_iff.mp letter with upper | lower
    · exact .inl (.inl (of_decide_eq_true upper))
    · obtain ⟨least, most⟩ := Bool.and_eq_true_iff.mp lower
      exact .inl (.inr ⟨of_decide_eq_true least, of_decide_eq_true most⟩)
  · exact .inr (Char.isDigit_iff_toNat.mp digit)

theorem escapedInSegment_alphanum {c : Char} (alphanumeric : c.isAlphanum = true)
    (special : Bool) : escapedInSegment special c = false := by
  have ordinary : ∀ d : Char, d.isAlphanum = false → c ≠ d := by
    rintro d mark rfl
    rw [alphanumeric] at mark
    cases mark
  have visible : isControl c = false := by
    have bounds := alphanum_bounds alphanumeric
    simp only [isControl, Bool.or_eq_false_iff, decide_eq_false_iff_not]
    omega
  simp only [escapedInSegment, escapedInPath, escapedInFragment, visible, List.mem_cons,
    List.not_mem_nil, or_false, Bool.false_or, Bool.or_eq_false_iff, Bool.and_eq_false_iff,
    decide_eq_false_iff_not, not_or]
  refine ⟨⟨⟨⟨?_, ?_⟩, ?_⟩, ?_⟩, .inr ?_⟩
  · exact ⟨ordinary _ rfl, ordinary _ rfl, ordinary _ rfl, ordinary _ rfl, ordinary _ rfl⟩
  · exact ⟨ordinary _ rfl, ordinary _ rfl, ordinary _ rfl, ordinary _ rfl⟩
  · exact ordinary _ rfl
  · exact ordinary _ rfl
  · exact ordinary _ rfl

namespace Plain

variable {s : String} {special ofFile : Bool} {segments : List String}

theorem not_mem (plain : Plain s) {ts : List String}
    (marked : ts.all fun t => t.toList.any fun c => !c.isAlphanum && c != '-') : s ∉ ts := by
  intro member
  obtain ⟨c, inside, mark⟩ := List.any_eq_true.mp (List.all_eq_true.mp marked s member)
  rcases plain.2 c inside with alphanumeric | rfl
  · simp [alphanumeric] at mark
  · cases mark

theorem encodeSegment (plain : Plain s) : encodeSegment special s = s := by
  have kept : s.toList.filter (fun c => !isIgnored c) = s.toList := by
    refine List.filter_eq_self.mpr fun c member => ?_
    rcases plain.2 c member with alphanumeric | rfl
    · have ordinary : c ≠ '\t' ∧ c ≠ '\n' ∧ c ≠ '\r' := by
        refine ⟨?_, ?_, ?_⟩ <;> (rintro rfl; cases alphanumeric)
      simp [isIgnored, ordinary]
    · rfl
  rw [Url.encodeSegment, kept, percentEncode_eq_self, String.ofList_toList]
  intro c member
  rcases plain.2 c member with alphanumeric | rfl
  · exact escapedInSegment_alphanum alphanumeric special
  · cases special <;> rfl

theorem append (plain : Plain s) :
    appendSegment special ofFile segments s =
      (if segments = [""] then [] else segments) ++ [s] := by
  have up : isUpSegment s = false := decide_eq_false (plain.not_mem rfl)
  have dot : isDotSegment s = false := decide_eq_false (plain.not_mem rfl)
  have lone : ¬ (s = "." ∨ s = "..") := by
    have apart : s ∉ [".", ".."] := plain.not_mem rfl
    simpa using apart
  rw [appendSegment, if_neg lone, plain.encodeSegment, follow, up, dot]
  rfl

end Plain

variable {special ofFile : Bool}

theorem foldl_append_of_ne {list segments : List String} (plain : ∀ s ∈ list, Plain s)
    (some_path : segments ≠ [""]) :
    list.foldl (appendSegment special ofFile) segments = segments ++ list := by
  induction list generalizing segments with
  | nil => exact (List.append_nil _).symm
  | cons s list ih =>
    obtain ⟨head, tail⟩ := List.forall_mem_cons.mp plain
    rw [List.foldl_cons, head.append, if_neg some_path, ih tail]
    · simp
    · intro lone
      have last := congrArg List.getLast? lone
      rw [List.getLast?_concat] at last
      exact head.1 (Option.some.inj last)

def keptSegments (own : List String) : List String :=
  if own = ["", ""] then [] else if own.getLast? = some "" then own.dropLast else own

theorem keptSegments_eq (own : List String) :
    (if dropLastIfEmpty own = [""] then [] else dropLastIfEmpty own) = keptSegments own := by
  rcases List.eq_nil_or_concat' own with rfl | ⟨front, last, rfl⟩
  · rfl
  · unfold keptSegments
    by_cases empty : last = ""
    · subst empty
      cases front with
      | nil => rfl
      | cons first rest =>
        have shortened : dropLastIfEmpty (first :: rest ++ [""]) = first :: rest := by
          rw [dropLastIfEmpty, if_pos ⟨by simp, List.getLast?_concat⟩, List.dropLast_concat]
        have both : first :: rest ++ [""] = [""] ++ [""] ↔ first :: rest = [""] :=
          List.append_left_inj [""]
        rw [List.singleton_append] at both
        rw [shortened, if_pos List.getLast?_concat, List.dropLast_concat]
        simp only [both]
    · have named : (front ++ [last]).getLast? ≠ some "" := by simpa using empty
      have other (front' : List String) : front ++ [last] ≠ front' ++ [""] :=
        fun same => named (same ▸ List.getLast?_concat)
      have stays : dropLastIfEmpty (front ++ [last]) = front ++ [last] :=
        if_neg fun both => named both.2
      rw [stays, if_neg named]
      exact (if_neg (other [])).trans (if_neg (other [""])).symm

theorem foldl_append {own : List String} {s : String} {list : List String}
    (plain : ∀ t ∈ s :: list, Plain t) :
    (s :: list).foldl (appendSegment special ofFile) (dropLastIfEmpty own) =
      keptSegments own ++ s :: list := by
  obtain ⟨head, tail⟩ := List.forall_mem_cons.mp plain
  rw [List.foldl_cons, head.append, keptSegments_eq, foldl_append_of_ne tail]
  · simp
  · intro lone
    have last := congrArg List.getLast? lone
    rw [List.getLast?_concat] at last
    exact head.1 (Option.some.inj last)

end SiteCache.Url
