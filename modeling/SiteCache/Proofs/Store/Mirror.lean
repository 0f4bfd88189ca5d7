import Mathlib.Data.Finset.Card
import SiteCache.Proofs.Plan.Build
import SiteCache.Proofs.Store.Pass

set_option autoImplicit false

namespace SiteCache.Store

variable {R K : Type} [DecidableEq K] [NaturalKey K] [Cached R K]

def fetchedKeys (site : SiteId) (records : List R) : Finset K :=
  ((records.filter (Plan.isLocal site)).map Resource.key).toFinset

def storedKeys (site : SiteId) (rows : List (Row R)) : Finset K :=
  ((rows.filter (·.isOf site)).map fun row => Resource.key row.record).toFinset

theorem mem_fetchedKeys (site : SiteId) (records : List R) (key : K) :
    key ∈ fetchedKeys site records ↔ ∃ r ∈ records, Plan.isLocal site r ∧ Resource.key r = key := by
  simp [fetchedKeys, and_assoc]

theorem mem_storedKeys (site : SiteId) (rows : List (Row R)) (key : K) :
    key ∈ storedKeys site rows ↔ ∃ row ∈ rows, row.identity = (site, key) := by
  simp [storedKeys, Row.isOf, Row.identity, and_assoc]

theorem mem_storedKeys_iff_any (site : SiteId) (rows : List (Row R)) (key : K) :
    key ∈ storedKeys site rows ↔ rows.any (·.isAt site key) := by
  simp only [mem_storedKeys, List.any_eq_true, isAt_iff]

theorem fetchedKeys_eq (site : SiteId) (records : List R) (mode : ReconcileMode) :
    fetchedKeys site records = (Plan.build site records mode).keys.toFinset := by
  ext key
  rw [mem_fetchedKeys, List.mem_toFinset, Plan.mem_keys_build]

theorem isNew_iff (site : SiteId) (rows : List (Row R)) (r : R) :
    isNew site rows r ↔ Resource.key r ∉ storedKeys site rows := by
  rw [mem_storedKeys_iff_any]
  simp [isNew]

theorem isStale_iff (plan : Plan R) (row : Row R) :
    isStale plan row ↔
      Resource.site row.record = plan.site ∧ Resource.key row.record ∉ plan.keys := by
  simp [isStale, doomed, Row.isOf]

theorem countP_eq_card {records : List R} (nodup : (records.map Resource.key).Nodup)
    (pick : R → Bool) (keys : Finset K)
    (same : ∀ key, key ∈ keys ↔ ∃ r ∈ records, pick r ∧ Resource.key r = key) :
    records.countP pick = keys.card := by
  have picked : ((records.filter pick).map Resource.key).Nodup :=
    nodup.sublist (List.filter_sublist.map _)
  have set : ((records.filter pick).map Resource.key).toFinset = keys := by
    ext key
    simp [same, and_assoc]
  rw [← set, List.toFinset_card_of_nodup picked, List.length_map, List.countP_eq_length_filter]

theorem countP_isNew (site : SiteId) (records : List R) (mode : ReconcileMode)
    (rows : List (Row R)) :
    (Plan.build site records mode).records.countP (isNew site rows) =
      (fetchedKeys site records \ storedKeys site rows).card := by
  apply countP_eq_card (Plan.keys_build_nodup site records mode)
  intro key
  rw [Finset.mem_sdiff, fetchedKeys_eq site records mode, List.mem_toFinset, Plan.keys,
    List.mem_map]
  constructor
  · rintro ⟨⟨r, member, rfl⟩, absent⟩
    exact ⟨r, member, (isNew_iff site rows r).mpr absent, rfl⟩
  · rintro ⟨r, member, new, rfl⟩
    exact ⟨⟨r, member, rfl⟩, (isNew_iff site rows r).mp new⟩

theorem countP_not_isNew (site : SiteId) (records : List R) (mode : ReconcileMode)
    (rows : List (Row R)) :
    (Plan.build site records mode).records.countP (fun r => !isNew site rows r) =
      (fetchedKeys site records ∩ storedKeys site rows).card := by
  apply countP_eq_card (Plan.keys_build_nodup site records mode)
  intro key
  have old (r : R) : (!isNew site rows r) = true ↔ Resource.key r ∈ storedKeys site rows := by
    rw [mem_storedKeys_iff_any]
    simp [isNew]
  rw [Finset.mem_inter, fetchedKeys_eq site records mode, List.mem_toFinset, Plan.keys,
    List.mem_map]
  constructor
  · rintro ⟨⟨r, member, rfl⟩, present⟩
    exact ⟨r, member, (old r).mpr present, rfl⟩
  · rintro ⟨r, member, present, rfl⟩
    exact ⟨⟨r, member, rfl⟩, (old r).mp present⟩

theorem Kept.site_keys_nodup {supply : Nat} {rows : List (Row R)} (kept : Kept supply rows)
    (site : SiteId) :
    ((rows.filter (·.isOf site)).map fun row => Resource.key row.record).Nodup := by
  apply List.Nodup.map_on
  · intro a first b second same
    rw [List.mem_filter] at first second
    apply kept.eq_of_identity first.1 second.1
    simp [Row.identity, (isOf_iff site a).mp first.2, (isOf_iff site b).mp second.2, same]
  · exact (List.Nodup.of_map _ kept.identities).filter _

theorem countP_isStale {supply : Nat} {rows : List (Row R)} (kept : Kept supply rows)
    (site : SiteId) (records : List R) (mode : ReconcileMode) :
    rows.countP (isStale (Plan.build site records mode)) =
      (storedKeys site rows \ fetchedKeys site records).card := by
  -- Stale rows are rows of the site, and those have different keys.
  have stale : rows.filter (isStale (Plan.build site records mode)) =
      (rows.filter (·.isOf site)).filter fun row =>
        !(Plan.build site records mode).keys.contains (Resource.key row.record) := by
    rw [List.filter_filter]
    apply List.filter_congr
    intro row _
    rw [isStale, doomed, Bool.and_comm]
    rfl
  have nodup : ((rows.filter (isStale (Plan.build site records mode))).map fun row =>
      Resource.key row.record).Nodup := by
    rw [stale]
    exact (kept.site_keys_nodup site).sublist (List.filter_sublist.map _)
  have set : ((rows.filter (isStale (Plan.build site records mode))).map fun row =>
      Resource.key row.record).toFinset = storedKeys site rows \ fetchedKeys site records := by
    ext key
    rw [fetchedKeys_eq site records mode, stale]
    simp only [storedKeys, List.mem_toFinset, List.mem_map, Finset.mem_sdiff, List.mem_filter,
      List.contains_eq_mem, Bool.not_eq_true', decide_eq_false_iff_not]
    constructor
    · rintro ⟨row, ⟨member, absent⟩, rfl⟩
      exact ⟨⟨row, member, rfl⟩, absent⟩
    · rintro ⟨⟨row, member, rfl⟩, absent⟩
      exact ⟨row, ⟨member, absent⟩, rfl⟩
  rw [← set, List.toFinset_card_of_nodup nodup, List.length_map, List.countP_eq_length_filter]

theorem exists_of_mem_written {site : SiteId} {records : List R} {supply : Nat}
    {rows : List (Row R)} {row : Row R} (member : row ∈ written site records supply rows) :
    (∃ old ∈ rows, refresh site records old = row) ∨
      row ∈ issue supply (records.filter (isNew site rows)) := by
  simpa [written] using member

theorem refresh_mem_written {site : SiteId} {records : List R} {supply : Nat}
    {rows : List (Row R)} {old : Row R} (member : old ∈ rows) :
    refresh site records old ∈ written site records supply rows :=
  List.mem_append_left _ (List.mem_map.mpr ⟨old, member, rfl⟩)

section

variable {site : SiteId} {records : List R} {supply : Nat} {rows : List (Row R)}

-- A row that a replacing plan leaves at its site is one that it has written.
theorem written_of_settled {row : Row R}
    (member : row ∈ settled (Plan.build site records .replace) supply rows)
    (ofSite : row.isOf site) :
    row ∈ written site (Plan.build site records .replace).records supply rows ∧
      Resource.key row.record ∈ (Plan.build site records .replace).keys := by
  have deletes : (Plan.build site records .replace).mode.deletesStale = true := rfl
  simp only [settled, deletes, if_true, List.mem_filter, Bool.not_eq_true'] at member
  refine ⟨member.1, ?_⟩
  have stays := member.2
  rw [← Bool.not_eq_true, isStale_iff] at stays
  by_contra absent
  exact stays ⟨(isOf_iff site row).mp ofSite, absent⟩

theorem settled_of_written {row : Row R}
    (member : row ∈ written site (Plan.build site records .replace).records supply rows)
    (planned : Resource.key row.record ∈ (Plan.build site records .replace).keys) :
    row ∈ settled (Plan.build site records .replace) supply rows := by
  have deletes : (Plan.build site records .replace).mode.deletesStale = true := rfl
  simp only [settled, deletes, if_true, List.mem_filter, Bool.not_eq_true']
  refine ⟨member, ?_⟩
  rw [← Bool.not_eq_true, isStale_iff]
  exact fun stale => stale.2 planned

theorem refresh_of_planned {plan : Plan R} {old : Row R}
    (localRecords : ∀ r ∈ plan.records, Resource.site r = plan.site)
    (ofSite : old.isOf plan.site) (planned : Resource.key old.record ∈ plan.keys) :
    ∃ r ∈ plan.records, refresh plan.site plan.records old = ⟨old.id, r, []⟩ := by
  obtain ⟨r, member, same⟩ := List.mem_map.mp planned
  cases found : plan.records.find? (Resource.key · == Resource.key old.record) with
  | none =>
    rw [List.find?_eq_none] at found
    exact absurd (beq_iff_eq.mpr same) (found r member)
  | some x =>
    have present := List.mem_of_find?_eq_some found
    have key : Resource.key x = Resource.key old.record := by simpa using List.find?_some found
    refine ⟨x, present, ?_⟩
    rw [refresh, if_pos ofSite, found]
    apply overwrite_of_identity
    rw [Row.identity, (isOf_iff _ old).mp ofSite, key, localRecords x present]

theorem storedKeys_settled :
    storedKeys site (settled (Plan.build site records .replace) supply rows) =
      fetchedKeys site records := by
  ext key
  rw [mem_storedKeys, fetchedKeys_eq site records .replace, List.mem_toFinset]
  constructor
  · rintro ⟨row, member, identity⟩
    obtain ⟨ofSite, rfl⟩ := Prod.mk.inj identity
    exact (written_of_settled member ((isOf_iff site row).mpr ofSite)).2
  · intro planned
    obtain ⟨r, member, rfl⟩ := List.mem_map.mp planned
    -- A planned record is in a new row, or in the row that had its key before.
    cases new : isNew site rows r with
    | true =>
      have present : r ∈ (issue supply ((Plan.build site records .replace).records.filter
          (isNew site rows))).map (·.record) := by
        rw [issue_records]
        exact List.mem_filter.mpr ⟨member, new⟩
      obtain ⟨row, issued, rfl⟩ := List.mem_map.mp present
      refine ⟨row, settled_of_written (List.mem_append_right _ issued) planned, ?_⟩
      rw [Row.identity, Plan.isLocal_of_mem_build member]
    | false =>
      rw [isNew, Bool.not_eq_false', ← mem_storedKeys_iff_any, mem_storedKeys] at new
      obtain ⟨old, stored, identity⟩ := new
      have atKey := (refresh_identity site (Plan.build site records .replace).records old).trans
        identity
      have plannedKey := (Prod.mk.inj atKey).2 ▸ planned
      exact ⟨_, settled_of_written (refresh_mem_written stored) plannedKey, atKey⟩

variable {row : Row R} (member : row ∈ settled (Plan.build site records .replace) supply rows)
  (ofSite : row.isOf site)

include member ofSite

theorem latest_of_settled :
    Plan.latest site records (Resource.key row.record) = some row.record ∧ row.damage = [] := by
  obtain ⟨present, planned⟩ := written_of_settled member ofSite
  rcases exists_of_mem_written present with ⟨old, stored, rfl⟩ | issued
  · have same := refresh_identity site (Plan.build site records .replace).records old
    obtain ⟨r, inside, eq⟩ := refresh_of_planned (Plan.ofSite_build site records .replace)
      (isOf_of_identity same site ▸ ofSite) ((Prod.mk.inj same).2 ▸ planned)
    change refresh site _ old = _ at eq
    rw [eq]
    exact ⟨(Plan.mem_records_build site records .replace r).mp inside, rfl⟩
  · obtain ⟨inside, clean, -⟩ := mem_issue issued
    have inside := (List.mem_filter.mp inside).1
    exact ⟨(Plan.mem_records_build site records .replace _).mp inside, clean⟩

end

end SiteCache.Store
