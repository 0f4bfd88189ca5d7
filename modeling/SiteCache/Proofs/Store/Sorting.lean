import SiteCache.Proofs.Plan.Canonical
import SiteCache.Proofs.Store.Listing
import SiteCache.Proofs.Store.Mirror

set_option autoImplicit false

namespace SiteCache.Store

def folded (s : String) : List Nat := (Text.octets s).map fun b => (foldOctet b).toNat

theorem collationKey_plain {as : List UInt8} (plain : 0 ∉ as) :
    collationKey as = as.map fun b => (foldOctet b).toNat := by
  induction as with
  | nil => rfl
  | cons a as ih =>
    simp only [List.mem_cons, not_or] at plain
    simp [collationKey, Ne.symm plain.1, ih plain.2]

theorem compareNoCase_plain {a b : String} (plain : 0 ∉ Text.octets a)
    (plain' : 0 ∉ Text.octets b) :
    (compareNoCase a b = .lt ↔ folded a < folded b) ∧
      (compareNoCase a b = .eq ↔ folded a = folded b) := by
  rw [folded, folded, ← collationKey_plain plain, ← collationKey_plain plain']
  exact compareNoCase_iff a b

def listedText : (k : ResourceKind) → RecordOf k → String
  | .sitePlugin, p => p.name
  | .product, p => p.name
  | .coupon, c => c.code

section

variable {k : ResourceKind}

theorem texts_of_listedBefore {r r' : RecordOf k} (before : Cached.listedBefore r r') :
    compareNoCase (listedText k r) (listedText k r') ≠ .gt := by
  cases k with
  | sitePlugin => simpa [Cached.listedBefore, listedText] using before
  | product | coupon =>
    simp only [Cached.listedBefore, beforeByText] at before
    split at before <;> simp_all [listedText]

theorem keys_of_listedBefore (numbered : k ≠ .sitePlugin) {r r' : RecordOf k}
    (before : Cached.listedBefore r r')
    (tie : compareNoCase (listedText k r) (listedText k r') = .eq) :
    NaturalKey.le (Resource.key r) (Resource.key r') := by
  cases k with
  | sitePlugin => exact absurd rfl numbered
  | product | coupon =>
    simp only [Cached.listedBefore, beforeByText, listedText] at before tie
    rw [tie] at before
    exact before

theorem filter_mergeSort {records : List (RecordOf k)}
    (apart : ∀ r ∈ records, ∀ r' ∈ records, listingKey k r = listingKey k r' → r = r')
    (pick : RecordOf k → Bool) :
    (records.filter pick).mergeSort Cached.listedBefore =
      (records.mergeSort Cached.listedBefore).filter pick := by
  apply List.Perm.eq_of_pairwise _ (mergeSort_sorted _) ((mergeSort_sorted records).filter pick)
  · exact (List.mergeSort_perm _ _).trans ((List.mergeSort_perm _ _).symm.filter pick)
  · intro r r' member member' before after
    have present := (List.mem_filter.mp (List.mem_mergeSort.mp member)).1
    have present' := List.mem_mergeSort.mp (List.mem_filter.mp member').1
    exact apart r present r' present' (le_antisymm before after)

def rowsByKey (rows : List (Row (RecordOf k))) : List (Row (RecordOf k)) :=
  rows.mergeSort fun a b => NaturalKey.le (Resource.key a.record) (Resource.key b.record)

theorem rowsByKey_perm (rows : List (Row (RecordOf k))) : (rowsByKey rows).Perm rows :=
  List.mergeSort_perm _ _

theorem rowsByKey_increasing {rows : List (Row (RecordOf k))}
    (nodup : (rows.map fun row => Resource.key row.record).Nodup) :
    ((rowsByKey rows).map fun row => Resource.key row.record).Pairwise Below := by
  have sorted : (rowsByKey rows).Pairwise fun a b =>
      NaturalKey.le (Resource.key a.record) (Resource.key b.record) := by
    apply List.pairwise_mergeSort
    · exact fun _ _ _ => NaturalKey.le_trans _ _ _
    · exact fun _ _ => NaturalKey.le_total _ _
  have apart := List.pairwise_map.mp (((rowsByKey_perm rows).map _).nodup_iff.mpr nodup)
  exact List.pairwise_map.mpr (sorted.and apart)

theorem eq_of_below {K : Type} [DecidableEq K] [NaturalKey K] {keys keys' : List K}
    (increasing : keys.Pairwise Below) (increasing' : keys'.Pairwise Below)
    (same : ∀ key, key ∈ keys ↔ key ∈ keys') : keys = keys' := by
  have nodup {keys : List K} (increasing : keys.Pairwise Below) : keys.Nodup :=
    increasing.imp fun below => below.2
  have perm := (List.perm_ext_iff_of_nodup (nodup increasing) (nodup increasing')).mpr same
  refine perm.eq_of_pairwise ?_ increasing increasing'
  intro a b _ _ below above
  exact NaturalKey.le_antisymm _ _ below.1 above.1

theorem storedKeys_nodup {supply : Nat} {c : Contents} (kept : KeptContents supply c)
    (k : ResourceKind) (site : SiteId) :
    ((rowsOf k site c).map fun row => Resource.key row.record).Nodup :=
  (kept k).site_keys_nodup site

theorem apart_of_kept {supply : Nat} {c : Contents} (kept : KeptContents supply c)
    (numbered : k ≠ .sitePlugin) (site : SiteId) :
    ∀ r ∈ storedRecords k site c, ∀ r' ∈ storedRecords k site c,
      listingKey k r = listingKey k r' → r = r' :=
  fun _ stored _ stored' same =>
    eq_of_stored_key kept stored stored' (key_of_listingKey numbered same)

end

namespace Database

variable {db : Database} {k : ResourceKind} {site : SiteId}

theorem answer_of_open {α : Type} (isOpen : db.isOpen = true) (migrated : db.migrated = true)
    (a : α) : db.answer k a = .ok a := by
  simp [answer, rows, isOpen, migrated, Except.map]

theorem rowIds_eq : db.rowIds (RecordOf k) site =
    db.answer k ((rowsByKey (rowsOf k site db.contents)).map (·.id)) := by
  rw [rowIds, siteRows_eq]
  exact answer_bind rfl

end Database

/-- What can be read of a kind for a site, and how it hangs together. -/
structure Listed (k : ResourceKind) (site : SiteId) (db : Database) (listed : List (RecordOf k))
    (ids : List RowId) : Prop where
  list : db.list (RecordOf k) site = .ok listed
  rowIds : db.rowIds (RecordOf k) site = .ok ids
  count : db.count (RecordOf k) site = .ok listed.length
  length : ids.length = listed.length
  complete : ∃ rows : List (Row (RecordOf k)), rows.Perm (rowsOf k site db.contents) ∧
    listed = rows.map (·.record)
  ordered : listed.Pairwise fun r r' => compareNoCase (listedText k r) (listedText k r') ≠ .gt
  ties : k ≠ .sitePlugin → listed.Pairwise fun r r' =>
    compareNoCase (listedText k r) (listedText k r') = .eq →
      Below (Resource.key r) (Resource.key r')
  determined : k ≠ .sitePlugin → ∀ db' : Database, db'.Reachable → db'.isOpen = true →
    db'.migrated = true →
    (∀ r, r ∈ storedRecords k site db'.contents ↔ r ∈ storedRecords k site db.contents) →
    db'.list (RecordOf k) site = .ok listed
  keyed : ∃ rows : List (Row (RecordOf k)), rows.Perm (rowsOf k site db.contents) ∧
    ids = rows.map (·.id) ∧ (rows.map fun row => Resource.key row.record).Pairwise Below

theorem exists_listed {db : Database} (reachable : db.Reachable) (isOpen : db.isOpen = true)
    (migrated : db.migrated = true) (k : ResourceKind) (site : SiteId) :
    Listed k site db ((storedRecords k site db.contents).mergeSort Cached.listedBefore)
      ((rowsByKey (rowsOf k site db.contents)).map (·.id)) := by
  have readable {α : Type} (a : α) : db.answer k a = .ok a :=
    Database.answer_of_open isOpen migrated a
  have before : ((storedRecords k site db.contents).mergeSort Cached.listedBefore).Pairwise
      (Cached.listedBefore · ·) :=
    (mergeSort_sorted _).imp fun le => (listedBefore_iff k _ _).mpr le
  constructor
  case list => rw [Database.list_eq reachable.undamaged, readable]
  case rowIds => rw [Database.rowIds_eq, readable]
  case count => rw [Database.count_eq, readable, List.length_mergeSort]
  case length =>
    rw [List.length_map, (rowsByKey_perm _).length_eq, List.length_mergeSort, storedRecords,
      List.length_map]
  case complete =>
    refine ⟨(rowsOf k site db.contents).mergeSort fun a b =>
      Cached.listedBefore a.record b.record, List.mergeSort_perm _ _, ?_⟩
    exact (List.map_mergeSort (f := fun row : Row (RecordOf k) => row.record)
      fun _ _ _ _ => rfl).symm
  case ordered => exact before.imp texts_of_listedBefore
  case ties =>
    intro numbered
    have nodup : (((storedRecords k site db.contents).mergeSort Cached.listedBefore).map
        Resource.key).Nodup := by
      rw [((List.mergeSort_perm _ _).map _).nodup_iff, storedRecords, List.map_map]
      exact storedKeys_nodup reachable.kept k site
    have apart := List.pairwise_map.mp nodup
    exact (before.and apart).imp fun both tie => ⟨keys_of_listedBefore numbered both.1 tie, both.2⟩
  case determined =>
    intro numbered db' reachable' isOpen' migrated' same
    have perm := (List.perm_ext_iff_of_nodup (storedRecords_nodup reachable'.kept)
      (storedRecords_nodup reachable.kept)).mpr same
    rw [Database.list_eq reachable'.undamaged, Database.answer_of_open isOpen' migrated',
      mergeSort_congr perm (apart_of_kept reachable'.kept numbered site)]
  case keyed =>
    have nodup := storedKeys_nodup reachable.kept k site
    exact ⟨_, rowsByKey_perm _, rfl, rowsByKey_increasing nodup⟩

theorem listByStockStatus_filter {db : Database} (reachable : db.Reachable) (site : SiteId)
    (status : StockStatus) :
    db.listByStockStatus site status =
      (db.list Product site).map (·.filter (·.stockStatus = status)) := by
  have listed : db.list Product site = _ := Database.list_eq (k := .product) reachable.undamaged
  have stocked := filter_mergeSort (apart_of_kept (k := .product) reachable.kept nofun site)
    fun p => decide (p.stockStatus = status)
  rw [Database.listByStockStatus_eq reachable.undamaged, listed, Database.answer_map, stocked]

end SiteCache.Store
