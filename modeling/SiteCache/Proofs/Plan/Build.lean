import Mathlib.Data.List.Nodup
import SiteCache.Plan

set_option autoImplicit false

namespace SiteCache.Plan

variable {R K : Type} [DecidableEq K] [NaturalKey K] [Resource R K]

def Before (a b : R) : Prop :=
  NaturalKey.le (Resource.key a) (Resource.key b) ∧ Resource.key a ≠ Resource.key b

omit [Resource R K] in
theorem le_of_not_le {a b : K} (not_le : NaturalKey.le a b = false) : NaturalKey.le b a := by
  have either := NaturalKey.le_total a b
  simpa [not_le] using either

theorem before_trans {a b c : R} (first : Before a b) (second : Before b c) : Before a c := by
  refine ⟨NaturalKey.le_trans _ _ _ first.1 second.1, ?_⟩
  intro same
  have back : NaturalKey.le (Resource.key b) (Resource.key a) := same ▸ second.1
  exact first.2 (NaturalKey.le_antisymm _ _ first.1 back)

theorem mem_insertAbsent (r x : R) {xs : List R} (sorted : xs.Pairwise Before) :
    x ∈ insertAbsent r xs ↔
      x ∈ xs ∨ (x = r ∧ ∀ y ∈ xs, Resource.key y ≠ Resource.key r) := by
  induction xs with
  | nil => simp [insertAbsent]
  | cons y rest ih =>
    obtain ⟨below, sorted⟩ := List.pairwise_cons.mp sorted
    by_cases same : Resource.key y = Resource.key r
    · simp [insertAbsent, same]
    · by_cases le : NaturalKey.le (Resource.key r) (Resource.key y)
      · -- Whatever follows `y` lies above it, so it cannot have the key of `r` either.
        have absent : ∀ z ∈ rest, Resource.key z ≠ Resource.key r := by
          intro z member clash
          have above := (below z member).1
          exact same (NaturalKey.le_antisymm _ _ (clash ▸ above) le)
        simp only [insertAbsent, beq_iff_eq, same, le, if_false, if_true, List.mem_cons]
        constructor
        · rintro (rfl | present)
          · exact .inr ⟨rfl, by simpa [same] using absent⟩
          · exact .inl present
        · rintro (present | ⟨rfl, -⟩)
          · exact .inr present
          · exact .inl rfl
      · simp [insertAbsent, same, le, ih sorted, or_assoc]

theorem insertAbsent_sorted (r : R) {xs : List R} (sorted : xs.Pairwise Before) :
    (insertAbsent r xs).Pairwise Before := by
  induction xs with
  | nil => simp [insertAbsent]
  | cons y rest ih =>
    obtain ⟨below, tail⟩ := List.pairwise_cons.mp sorted
    by_cases same : Resource.key y = Resource.key r
    · simpa [insertAbsent, same] using sorted
    · cases le : NaturalKey.le (Resource.key r) (Resource.key y) with
      | true =>
        have first : Before r y := ⟨le, Ne.symm same⟩
        simp only [insertAbsent, beq_iff_eq, same, le, if_false, if_true]
        refine List.pairwise_cons.mpr ⟨?_, sorted⟩
        intro z member
        rcases List.mem_cons.mp member with rfl | member
        · exact first
        · exact before_trans first (below z member)
      | false =>
        simp only [insertAbsent, beq_iff_eq, same, le, if_false, Bool.false_eq_true]
        refine List.pairwise_cons.mpr ⟨?_, ih tail⟩
        intro z member
        rcases (mem_insertAbsent r z tail).mp member with member | ⟨rfl, -⟩
        · exact below z member
        · exact ⟨le_of_not_le le, same⟩

theorem foldr_insertAbsent_sorted (xs : List R) :
    (xs.foldr insertAbsent []).Pairwise Before := by
  induction xs with
  | nil => simp
  | cons r rest ih => exact insertAbsent_sorted r ih

theorem key_of_findRev? {xs : List R} {k : K} {r : R}
    (found : xs.findRev? (Resource.key · == k) = some r) : Resource.key r = k := by
  rw [List.findRev?_eq_find?_reverse] at found
  simpa using List.find?_some found

theorem mem_foldr_insertAbsent (xs : List R) (r : R) :
    r ∈ xs.foldr insertAbsent [] ↔
      xs.findRev? (Resource.key · == Resource.key r) = some r := by
  induction xs generalizing r with
  | nil => simp [List.findRev?]
  | cons x rest ih =>
    rw [List.foldr_cons, mem_insertAbsent x r (foldr_insertAbsent_sorted rest), ih, List.findRev?]
    cases later : rest.findRev? (Resource.key · == Resource.key r) with
    | some s =>
      -- A later record has the key, so `x` is no candidate for it.
      have member : s ∈ rest.foldr insertAbsent [] := by
        rw [ih, key_of_findRev? later, later]
      constructor
      · rintro (same | ⟨rfl, absent⟩)
        · exact same
        · exact absurd (key_of_findRev? later) (absent s member)
      · exact .inl
    | none =>
      have absent : ∀ s ∈ rest.foldr insertAbsent [], Resource.key s ≠ Resource.key r := by
        intro s member same
        rw [ih, same, later] at member
        cases member
      constructor
      · rintro (same | ⟨rfl, -⟩)
        · cases same
        · simp
      · intro same
        by_cases key : Resource.key x = Resource.key r
        · simp only [key, beq_self_eq_true, if_true, Option.some.injEq] at same
          exact .inr ⟨same.symm, key ▸ absent⟩
        · simp [key] at same

def latest (site : SiteId) (records : List R) (key : K) : Option R :=
  records.findRev? fun r => isLocal site r && Resource.key r == key

theorem filter_findRev? {α : Type} (p q : α → Bool) (xs : List α) :
    (xs.filter p).findRev? q = xs.findRev? fun x => p x && q x := by
  simp [← List.filter_reverse, List.find?_filter, Bool.decide_and]

theorem mem_records_build (site : SiteId) (records : List R) (mode : ReconcileMode) (r : R) :
    r ∈ (build site records mode).records ↔ latest site records (Resource.key r) = some r := by
  rw [build, mem_foldr_insertAbsent, filter_findRev?, latest]

theorem latest_some {site : SiteId} {records : List R} {key : K} {r : R}
    (found : latest site records key = some r) :
    r ∈ records ∧ isLocal site r ∧ Resource.key r = key := by
  rw [latest, List.findRev?_eq_find?_reverse] at found
  have holds := List.find?_some found
  have member := List.mem_of_find?_eq_some found
  simp only [Bool.and_eq_true, beq_iff_eq] at holds
  exact ⟨List.mem_reverse.mp member, holds⟩

theorem latest_isSome (site : SiteId) (records : List R) (key : K) :
    (latest site records key).isSome ↔
      ∃ r ∈ records, isLocal site r ∧ Resource.key r = key := by
  simp [latest, List.findRev?_eq_find?_reverse]

theorem latest_append (site : SiteId) (earlier later : List R) (key : K) :
    latest site (earlier ++ later) key =
      (latest site later key).or (latest site earlier key) := by
  simp only [latest, List.findRev?_eq_find?_reverse, List.reverse_append, List.find?_append]

theorem mem_keys_build (site : SiteId) (records : List R) (mode : ReconcileMode) (key : K) :
    key ∈ (build site records mode).keys ↔
      ∃ r ∈ records, isLocal site r ∧ Resource.key r = key := by
  rw [← latest_isSome, Option.isSome_iff_exists, keys, List.mem_map]
  constructor
  · rintro ⟨r, member, rfl⟩
    exact ⟨r, (mem_records_build site records mode r).mp member⟩
  · rintro ⟨r, found⟩
    have same := (latest_some found).2.2
    refine ⟨r, (mem_records_build site records mode r).mpr ?_, same⟩
    rw [same, found]

theorem isLocal_of_mem_build {site : SiteId} {records : List R} {mode : ReconcileMode} {r : R}
    (member : r ∈ (build site records mode).records) : Resource.site r = site := by
  have found := (mem_records_build site records mode r).mp member
  simpa [isLocal] using (latest_some found).2.1

theorem ofSite_build (site : SiteId) (records : List R) (mode : ReconcileMode) :
    ∀ r ∈ (build site records mode).records, Resource.site r = (build site records mode).site :=
  fun _ member => isLocal_of_mem_build member

theorem keys_build_nodup (site : SiteId) (records : List R) (mode : ReconcileMode) :
    ((build site records mode).records.map Resource.key).Nodup :=
  List.pairwise_map.mpr ((foldr_insertAbsent_sorted _).imp fun before => before.2)

end SiteCache.Plan
