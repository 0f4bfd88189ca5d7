import Mathlib.Data.List.Lex
import SiteCache.Coupon
import SiteCache.Proofs.Plan.Build

set_option autoImplicit false

namespace SiteCache

def Below {K : Type} [DecidableEq K] [NaturalKey K] (a b : K) : Prop :=
  NaturalKey.le a b ∧ a ≠ b

theorem below_int64 (a b : Int64) : Below a b ↔ a < b := by
  simp only [Below, NaturalKey.le, decide_eq_true_eq, Int64.le_iff_toInt_le, Int64.lt_iff_toInt_lt,
    ne_eq, ← Int64.toInt_inj]
  omega

theorem octetsLe_ne_iff (as bs : List UInt8) : octetsLe as bs ∧ as ≠ bs ↔ as < bs := by
  induction as generalizing bs with
  | nil => cases bs <;> simp [octetsLe]
  | cons a as ih =>
    cases bs with
    | nil => simp [octetsLe]
    | cons b bs =>
      simp only [octetsLe, List.cons_lt_cons_iff, ← ih, Bool.or_eq_true, Bool.and_eq_true,
        decide_eq_true_eq, beq_iff_eq, ne_eq, List.cons.injEq, not_and]
      constructor
      · rintro ⟨below | ⟨same, le⟩, different⟩
        · exact .inl below
        · exact .inr ⟨same, le, different same⟩
      · rintro (below | ⟨same, le, different⟩)
        · exact ⟨.inl below, fun same => absurd below (same ▸ UInt8.lt_irrefl a)⟩
        · exact ⟨.inr ⟨same, le⟩, fun _ => different⟩

theorem below_string (a b : String) : Below a b ↔ Text.octets a < Text.octets b := by
  rw [← octetsLe_ne_iff]
  exact and_congr_right' (not_congr ⟨congrArg Text.octets, octets_injective⟩)

namespace Plan

variable {R K : Type} [DecidableEq K] [NaturalKey K] [Resource R K]

theorem eq_of_mem_iff {xs ys : List R} (sorted : xs.Pairwise Before) (sorted' : ys.Pairwise Before)
    (same : ∀ r, r ∈ xs ↔ r ∈ ys) : xs = ys := by
  have apart {zs : List R} (sorted : zs.Pairwise Before) : zs.Nodup :=
    sorted.imp fun before equal => before.2 (congrArg Resource.key equal)
  have perm := (List.perm_ext_iff_of_nodup (apart sorted) (apart sorted')).mpr same
  refine perm.eq_of_pairwise ?_ sorted sorted'
  intro a b _ _ before after
  exact absurd (NaturalKey.le_antisymm _ _ before.1 after.1) before.2

theorem insertAbsent_of_before {r : R} {xs : List R} (first : ∀ x ∈ xs, Before r x) :
    insertAbsent r xs = r :: xs := by
  cases xs with
  | nil => rfl
  | cons x rest =>
    obtain ⟨le, different⟩ := first x List.mem_cons_self
    simp [insertAbsent, le, Ne.symm different]

theorem foldr_insertAbsent_of_sorted {xs : List R} (sorted : xs.Pairwise Before) :
    xs.foldr insertAbsent [] = xs := by
  induction xs with
  | nil => rfl
  | cons r rest ih =>
    obtain ⟨first, sorted⟩ := List.pairwise_cons.mp sorted
    rw [List.foldr_cons, ih sorted, insertAbsent_of_before first]

-- The last record of a key stands behind all others of its site and key.
theorem latest_last {site : SiteId} {records : List R} {key : K} {r : R}
    (found : latest site records key = some r) :
    ∃ earlier later, records = earlier ++ r :: later ∧
      ∀ r' ∈ later, ¬ (Resource.site r' = site ∧ Resource.key r' = key) := by
  rw [latest, List.findRev?_eq_find?_reverse, List.find?_eq_some_iff_append] at found
  obtain ⟨-, after, before, split, passed⟩ := found
  rw [List.reverse_eq_iff] at split
  refine ⟨before.reverse, after.reverse, by simp [split], ?_⟩
  intro r' member
  have other := passed r' (List.mem_reverse.mp member)
  rw [not_and_or]
  simpa [isLocal] using other

theorem latest_filter (site : SiteId) (records : List R) (key : K) :
    latest site records key =
      (records.filter fun r => isLocal site r && Resource.key r == key).getLast? := by
  rw [latest, List.findRev?_eq_find?_reverse, ← List.head?_filter, List.filter_reverse,
    List.head?_reverse]

-- The same records, in an order that differs between records of different sites or keys only.
def Reordered (records records' : List R) : Prop :=
  records.Perm records' ∧ ∀ (site : SiteId) (key : K),
    (records.filter fun r => isLocal site r && Resource.key r == key) =
      records'.filter fun r => isLocal site r && Resource.key r == key

theorem reordered_swap (before after : List R) {a b : R}
    (different : ¬ (Resource.site a = Resource.site b ∧ Resource.key a = Resource.key b)) :
    Reordered (before ++ a :: b :: after) (before ++ b :: a :: after) := by
  refine ⟨(List.Perm.swap b a after).append_left before, ?_⟩
  intro site key
  rw [List.filter_append, List.filter_append]
  refine congrArg _ ?_
  by_cases first : isLocal site a && Resource.key a == key
  · have second : (isLocal site b && Resource.key b == key) = false := by
      rw [← Bool.not_eq_true]
      intro second
      simp only [isLocal, Bool.and_eq_true, decide_eq_true_eq, beq_iff_eq] at first second
      exact different ⟨first.1.trans second.1.symm, first.2.trans second.2.symm⟩
    simp only [List.filter_cons, second, Bool.false_eq_true, if_false]
  · simp only [List.filter_cons, first, Bool.false_eq_true, if_false]

theorem build_reordered {records records' : List R} (reordered : Reordered records records')
    (site : SiteId) (mode : ReconcileMode) :
    build site records' mode = build site records mode := by
  have members (r : R) : r ∈ (build site records' mode).records ↔
      r ∈ (build site records mode).records := by
    rw [mem_records_build, mem_records_build, latest_filter, latest_filter, reordered.2]
  have same : (build site records' mode).records = (build site records mode).records :=
    eq_of_mem_iff (foldr_insertAbsent_sorted _) (foldr_insertAbsent_sorted _) members
  simp only [build, Plan.mk.injEq, true_and] at same ⊢
  exact ⟨same, (reordered.1.countP_eq _).symm⟩

theorem build_again (site : SiteId) (records : List R) (mode : ReconcileMode) :
    build site (build site records mode).records mode =
      { build site records mode with skippedForeign := 0 } := by
  have ofSite : ∀ r ∈ (build site records mode).records, isLocal site r := by
    intro r member
    rw [isLocal, decide_eq_true (isLocal_of_mem_build member)]
  have sorted : (build site records mode).records.Pairwise Before := foldr_insertAbsent_sorted _
  rw [build, List.filter_eq_self.mpr ofSite, foldr_insertAbsent_of_sorted sorted,
    List.countP_eq_zero.mpr fun r member => by simp [ofSite r member]]
  rfl

structure Canonical (site : SiteId) (records : List R) (mode : ReconcileMode) (plan : Plan R) :
    Prop where
  site_eq : plan.site = site
  mode_eq : plan.mode = mode
  increasing : plan.keys.Pairwise Below
  keys : ∀ key, key ∈ plan.keys ↔ ∃ r ∈ records, Resource.site r = site ∧ Resource.key r = key
  paired : ∀ i : Nat, plan.keys[i]? = plan.records[i]?.map Resource.key
  last : ∀ r ∈ plan.records, Resource.site r = site ∧ ∃ earlier later,
    records = earlier ++ r :: later ∧
      ∀ r' ∈ later, ¬ (Resource.site r' = site ∧ Resource.key r' = Resource.key r)
  foreign : plan.records = (build site (records.filter (isLocal site)) mode).records
  skipped : plan.skippedForeign = (records.filter fun r => Resource.site r ≠ site).length

theorem canonical_build (site : SiteId) (records : List R) (mode : ReconcileMode) :
    Canonical site records mode (build site records mode) where
  site_eq := rfl
  mode_eq := rfl
  increasing := List.pairwise_map.mpr (foldr_insertAbsent_sorted _)
  keys key := by simp [mem_keys_build, isLocal]
  paired i := List.getElem?_map
  last r member := by
    have found := (mem_records_build site records mode r).mp member
    exact ⟨isLocal_of_mem_build member, latest_last found⟩
  foreign := by simp [build]
  skipped := by simp [build, List.countP_eq_length_filter, isLocal]

/-- A plan holds the keys of its site in strict order, each with its last record, and counts the
records of other sites. No other order of the response, and no second plan from the records of the
first, leads to another plan. -/
theorem build_canonical (site : SiteId) (records : List R) (mode : ReconcileMode) :
    Canonical site records mode (build site records mode) ∧
      (∀ records', Reordered records records' →
        build site records' mode = build site records mode) ∧
      build site (build site records mode).records mode =
        { build site records mode with skippedForeign := 0 } ∧
      (∀ a b : Int64, Below a b ↔ a < b) ∧
      ∀ a b : String, Below a b ↔ Text.octets a < Text.octets b :=
  ⟨canonical_build site records mode, fun _ reordered => build_reordered reordered site mode,
    build_again site records mode, below_int64, below_string⟩

def couponOfSite (site : SiteId) (key : Int64) (code : String) : Coupon := .new site key code .epoch

theorem repeatedCoupon_canonical :
    let first := couponOfSite ⟨7⟩ 2 "two"
    let second := couponOfSite ⟨7⟩ 1 "earlier"
    let rest := [couponOfSite ⟨7⟩ 1 "later", couponOfSite ⟨9⟩ 1 "foreign"]
    Reordered (first :: second :: rest) (second :: first :: rest) ∧
      build ⟨7⟩ (second :: first :: rest) .merge = build ⟨7⟩ (first :: second :: rest) .merge ∧
      (build ⟨7⟩ (first :: second :: rest) .merge).records =
        [couponOfSite ⟨7⟩ 1 "later", couponOfSite ⟨7⟩ 2 "two"] := by
  intro first second rest
  have reordered : Reordered (first :: second :: rest) (second :: first :: rest) :=
    reordered_swap [] rest (by decide)
  exact ⟨reordered, (build_canonical ⟨7⟩ _ .merge).2.1 _ reordered, rfl⟩

end Plan

end SiteCache
