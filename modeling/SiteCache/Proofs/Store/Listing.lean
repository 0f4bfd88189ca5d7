import Mathlib.Data.List.Find
import SiteCache.Proofs.Store.Collation
import SiteCache.Proofs.Store.Frame
import SiteCache.Store.Listing

set_option autoImplicit false

namespace SiteCache.Store

-- No cell has been overwritten from outside.
def Undamaged (c : Contents) : Prop := ∀ k, ∀ row ∈ kindRows k c, row.damage = []

theorem Undamaged.setRows {c : Contents} (clean : Undamaged c) {k : ResourceKind}
    {rows : List (Row (RecordOf k))} (new : ∀ row ∈ rows, row.damage = []) :
    Undamaged (Cached.setRows c rows) :=
  forall_setRows (P := fun _ rows => ∀ row ∈ rows, row.damage = []) clean new

theorem Undamaged.change {k : ResourceKind} {site : SiteId} {s s' : Session}
    (clean : Undamaged s.contents) (change : Session.Change k site s s') :
    Undamaged s'.contents := by
  cases change with
  | insert _ _ =>
    refine clean.setRows ?_
    intro row member
    rcases List.mem_append.mp member with old | new
    · exact clean k row old
    · rw [List.mem_singleton.mp new]
      rfl
  | overwrite r _ _ =>
    refine clean.setRows ?_
    intro row member
    obtain ⟨old, present, rfl⟩ := List.mem_map.mp member
    split
    · rfl
    · exact clean k old present
  | delete stale =>
    exact clean.setRows fun row member => clean k row (List.mem_filter.mp member).1

theorem Database.Reachable.undamaged {db : Database} (reachable : db.Reachable) :
    Undamaged db.contents := by
  induction reachable with
  | new => intro k; cases k <;> exact fun _ member => absurd member List.not_mem_nil
  | settings migrated isOpen refuses _ ih => exact ih
  | rollback calls _ begun ih => exact ih
  | @commit db session calls before begun ih =>
    have clean : Undamaged session.contents := by
      rw [begin_ok begun]
      exact ih
    have after := Session.keeps_after (I := fun s => Undamaged s.contents)
      (fun _ _ _ _ change held => held.change change)
      (keptSince_begin begun before.kept) clean calls
    unfold Database.commit
    split
    · exact ih
    · exact after

def storedRecords (k : ResourceKind) (site : SiteId) (c : Contents) : List (RecordOf k) :=
  (rowsOf k site c).map (·.record)

theorem site_of_stored {k : ResourceKind} {site : SiteId} {c : Contents} {r : RecordOf k}
    (stored : r ∈ storedRecords k site c) : Resource.site r = site := by
  obtain ⟨row, member, rfl⟩ := List.mem_map.mp stored
  exact (isOf_iff site row).mp (List.mem_filter.mp member).2

section

variable {supply : Nat} {k : ResourceKind} {site : SiteId} {c : Contents}

theorem eq_of_stored_key (kept : KeptContents supply c) {r r' : RecordOf k}
    (stored : r ∈ storedRecords k site c) (stored' : r' ∈ storedRecords k site c)
    (same : Resource.key r = Resource.key r') : r = r' := by
  have sites := (site_of_stored stored).trans (site_of_stored stored').symm
  obtain ⟨row, member, rfl⟩ := List.mem_map.mp stored
  obtain ⟨row', member', rfl⟩ := List.mem_map.mp stored'
  have identity : row.identity = row'.identity := Prod.ext sites same
  rw [(kept k).eq_of_identity (List.mem_filter.mp member).1 (List.mem_filter.mp member').1 identity]

theorem storedRecords_nodup (kept : KeptContents supply c) : (storedRecords k site c).Nodup := by
  have identities : ((rowsOf k site c).map Row.identity).Nodup :=
    (kept k).identities.sublist (List.filter_sublist.map _)
  have through : (rowsOf k site c).map Row.identity =
      (storedRecords k site c).map fun r => (Resource.site r, Resource.key r) := by
    rw [storedRecords, List.map_map]
    rfl
  rw [through] at identities
  exact identities.of_map _

end

namespace Database

-- An answer, if the tables can be read at all.
def answer (db : Database) (k : ResourceKind) {α : Type} (a : α) : Except DbError α :=
  (db.rows (RecordOf k)).map fun _ => a

section

variable {α β : Type} {db : Database} {k : ResourceKind} {site : SiteId}

theorem answer_map (a : α) (f : α → β) : (db.answer k a).map f = db.answer k (f a) := by
  unfold answer
  cases db.rows (RecordOf k) <;> rfl

theorem answer_bind {a : α} {b : β} {next : α → Except DbError β} (read : next a = .ok b) :
    db.answer k a >>= next = db.answer k b := by
  unfold answer
  cases db.rows (RecordOf k) with
  | error e => rfl
  | ok rows => exact read

theorem answer_congr {db' : Database} (isOpen : db.isOpen = db'.isOpen)
    (migrated : db.migrated = db'.migrated) (a : α) : db.answer k a = db'.answer k a := by
  unfold answer rows
  rw [isOpen, migrated]
  split
  · rfl
  · split <;> rfl

theorem answer_ok {a b : α} (ran : db.answer k a = .ok b) :
    b = a ∧ ∀ c : α, db.answer k c = .ok c := by
  unfold answer at *
  cases rows : db.rows (RecordOf k) with
  | error e =>
    rw [rows] at ran
    cases ran
  | ok stored =>
    rw [rows] at ran
    cases ran
    exact ⟨rfl, fun _ => rfl⟩

theorem rows_eq (db : Database) (k : ResourceKind) :
    db.rows (RecordOf k) = db.answer k (kindRows k db.contents) := by
  unfold answer rows
  split
  · rfl
  · split <;> rfl

theorem siteRows_eq (db : Database) (k : ResourceKind) (site : SiteId) :
    db.siteRows (RecordOf k) site = db.answer k (rowsOf k site db.contents) := by
  rw [siteRows, rows_eq, answer_map]
  rfl

theorem mapM_read {R : Type} {rows : List (Row R)} (clean : ∀ row ∈ rows, row.damage = []) :
    rows.mapM Row.read = .ok (rows.map (·.record)) := by
  induction rows with
  | nil => rfl
  | cons row rest ih =>
    have read : row.read = .ok row.record := by rw [Row.read, clean row List.mem_cons_self]
    rw [List.mapM_cons, read, ih fun row member => clean row (List.mem_cons_of_mem _ member)]
    rfl

theorem readListed_eq {R K : Type} [DecidableEq K] [NaturalKey K] [Cached R K]
    {rows : List (Row R)} (clean : ∀ row ∈ rows, row.damage = []) :
    readListed rows = .ok ((rows.map (·.record)).mergeSort Cached.listedBefore) := by
  have sorted : ((rows.map (·.record)).mergeSort Cached.listedBefore) =
      (rows.mergeSort fun a b => Cached.listedBefore a.record b.record).map (·.record) :=
    (List.map_mergeSort (f := fun row : Row R => row.record) fun a _ b _ => rfl).symm
  rw [readListed, mapM_read fun row member => clean row (List.mem_mergeSort.mp member), sorted]

theorem count_eq :
    db.count (RecordOf k) site = db.answer k (storedRecords k site db.contents).length := by
  rw [count, siteRows_eq, answer_map, storedRecords, List.length_map]

variable (clean : Undamaged db.contents)

include clean

theorem clean_rowsOf : ∀ row ∈ rowsOf k site db.contents, row.damage = [] :=
  fun row member => clean k row (List.mem_filter.mp member).1

theorem list_eq :
    db.list (RecordOf k) site =
      db.answer k ((storedRecords k site db.contents).mergeSort Cached.listedBefore) := by
  rw [list, siteRows_eq]
  exact answer_bind (readListed_eq (clean_rowsOf clean))

theorem list_of_ordered
    (ordered : (storedRecords k site db.contents).Pairwise (Cached.listedBefore · ·)) :
    db.list (RecordOf k) site = db.answer k (storedRecords k site db.contents) := by
  rw [list_eq clean, List.mergeSort_of_pairwise ordered]

theorem get_eq (key : KeyOf k) :
    db.get (RecordOf k) site key =
      db.answer k ((storedRecords k site db.contents).find? (Resource.key · == key)) := by
  have through : (storedRecords k site db.contents).find? (Resource.key · == key) =
      ((kindRows k db.contents).find? (·.isAt site key)).map (·.record) := by
    rw [storedRecords, rowsOf, List.find?_map, List.find?_filter]
    simp only [Function.comp_apply, Bool.decide_and, Bool.decide_eq_true]
    rfl
  rw [get, rows_eq, through]
  apply answer_bind
  cases found : (kindRows k db.contents).find? (·.isAt site key) with
  | none => rfl
  | some row => simp [Row.read, clean k row (List.mem_of_find?_eq_some found), Except.map]

theorem listByStockStatus_eq (status : StockStatus) :
    db.listByStockStatus site status =
      db.answer .product (((storedRecords .product site db.contents).filter
        (·.stockStatus = status)).mergeSort Cached.listedBefore) := by
  have undamaged : ∀ row ∈ rowsOf .product site db.contents, row.damage = [] := clean_rowsOf clean
  have stocked : (storedRecords .product site db.contents).filter (·.stockStatus = status) =
      ((rowsOf .product site db.contents).filter (hasStockStatus status)).map (·.record) := by
    rw [storedRecords, List.filter_map]
    congr 1
    apply List.filter_congr
    intro row member
    simp [hasStockStatus, undamaged row member]
  have rows : db.siteRows Product site = db.answer .product (rowsOf .product site db.contents) :=
    siteRows_eq db .product site
  rw [listByStockStatus, rows, stocked]
  exact answer_bind (readListed_eq fun row member => undamaged row (List.mem_filter.mp member).1)

theorem findByCode_eq (code : String) :
    db.findByCode site code =
      db.answer .coupon ((storedRecords .coupon site db.contents).find?
        (eqNoCase ·.code (Text.trimmed code))) := by
  have rows : db.siteRows Coupon site = db.answer .coupon (rowsOf .coupon site db.contents) :=
    siteRows_eq db .coupon site
  rw [findByCode, rows, storedRecords, List.find?_map]
  apply answer_bind
  simp only [Function.comp_def]
  cases found : (rowsOf .coupon site db.contents).find?
      (eqNoCase ·.record.code (Text.trimmed code)) with
  | none => rfl
  | some row =>
    simp [Row.read, clean_rowsOf clean row (List.mem_of_find?_eq_some found), Except.map]

end

end Database

structure StoredAlike (site : SiteId) (a b : Database) : Prop where
  isOpen : a.isOpen = b.isOpen
  migrated : a.migrated = b.migrated
  records : ∀ k r, r ∈ storedRecords k site a.contents ↔ r ∈ storedRecords k site b.contents

/-- Two stores that answer alike what is asked about a site, apart from the order of plugins whose
names differ in case alone and from which coupon is found by a code that several have. -/
structure ReadsAlike (site : SiteId) (a b : Database) : Prop where
  get : ∀ k (key : KeyOf k), a.get (RecordOf k) site key = b.get (RecordOf k) site key
  count : ∀ k, a.count (RecordOf k) site = b.count (RecordOf k) site
  isActive : ∀ name, a.isActive site name = b.isActive site name
  products : a.list Product site = b.list Product site
  coupons : a.list Coupon site = b.list Coupon site
  byStockStatus : ∀ status, a.listByStockStatus site status = b.listByStockStatus site status
  plugins : (∀ p ∈ storedRecords .sitePlugin site a.contents,
      ∀ q ∈ storedRecords .sitePlugin site a.contents, eqNoCase p.name q.name → p = q) →
    a.list SitePlugin site = b.list SitePlugin site
  reordered : ∀ listed, a.list SitePlugin site = .ok listed →
    ∃ listed', b.list SitePlugin site = .ok listed' ∧ listed.Perm listed'
  byCode : ∀ code, (∀ c ∈ storedRecords .coupon site a.contents,
      ∀ d ∈ storedRecords .coupon site a.contents, eqNoCase c.code (Text.trimmed code) →
        eqNoCase d.code (Text.trimmed code) → c = d) →
    a.findByCode site code = b.findByCode site code
  found : ∀ code, (a.findByCode site code).map Option.isSome =
    (b.findByCode site code).map Option.isSome

theorem eqNoCase_of_listingKey {p q : SitePlugin}
    (same : listingKey .sitePlugin p = listingKey .sitePlugin q) : eqNoCase p.name q.name := by
  have keys := (Prod.ext_iff.mp (toLex_inj.mp same)).1
  rw [eqNoCase, (compareNoCase_iff p.name q.name).2.mpr keys]
  rfl

theorem key_of_listingKey {k : ResourceKind} (numbered : k ≠ .sitePlugin) {r r' : RecordOf k}
    (same : listingKey k r = listingKey k r') : Resource.key r = Resource.key r' := by
  cases k with
  | sitePlugin => exact absurd rfl numbered
  | product => exact Int64.toInt_inj.mp (Prod.ext_iff.mp (toLex_inj.mp same)).2
  | coupon => exact Int64.toInt_inj.mp (Prod.ext_iff.mp (toLex_inj.mp same)).2

namespace StoredAlike

variable {site : SiteId} {a b : Database} {supply supply' : Nat}

theorem perm (alike : StoredAlike site a b) (kept : KeptContents supply a.contents)
    (kept' : KeptContents supply' b.contents) (k : ResourceKind) :
    (storedRecords k site a.contents).Perm (storedRecords k site b.contents) :=
  (List.perm_ext_iff_of_nodup (storedRecords_nodup kept) (storedRecords_nodup kept')).mpr
    (alike.records k)

theorem answer_eq (alike : StoredAlike site a b) (k : ResourceKind) {α : Type} {x y : α}
    (same : x = y) : a.answer k x = b.answer k y := by
  rw [same, Database.answer_congr alike.isOpen alike.migrated]

theorem list_eq (alike : StoredAlike site a b) (reachable : a.Reachable) (reachable' : b.Reachable)
    {k : ResourceKind}
    (apart : ∀ r ∈ storedRecords k site a.contents, ∀ r' ∈ storedRecords k site a.contents,
      listingKey k r = listingKey k r' → r = r') :
    a.list (RecordOf k) site = b.list (RecordOf k) site := by
  rw [Database.list_eq reachable.undamaged, Database.list_eq reachable'.undamaged]
  exact alike.answer_eq k (mergeSort_congr (alike.perm reachable.kept reachable'.kept k) apart)

theorem readsAlike (alike : StoredAlike site a b) (reachable : a.Reachable)
    (reachable' : b.Reachable) : ReadsAlike site a b := by
  have perm := alike.perm reachable.kept reachable'.kept
  -- The number at the end of a listing key tells records apart, and plugins have none.
  have apart {k : ResourceKind} (numbered : k ≠ .sitePlugin) :
      ∀ r ∈ storedRecords k site a.contents, ∀ r' ∈ storedRecords k site a.contents,
        listingKey k r = listingKey k r' → r = r' :=
    fun r stored r' stored' same =>
      eq_of_stored_key reachable.kept stored stored' (key_of_listingKey numbered same)
  have get (k : ResourceKind) (key : KeyOf k) :
      a.get (RecordOf k) site key = b.get (RecordOf k) site key := by
    rw [Database.get_eq reachable.undamaged, Database.get_eq reachable'.undamaged]
    apply alike.answer_eq k
    apply List.find?_eq_find?_of_perm (perm k)
    rintro r ⟨stored, key⟩ r' ⟨stored', key'⟩
    exact eq_of_stored_key reachable.kept stored stored'
      ((beq_iff_eq.mp key).trans (beq_iff_eq.mp key').symm)
  constructor
  case get => exact get
  case count =>
    intro k
    rw [Database.count_eq, Database.count_eq]
    exact alike.answer_eq k (perm k).length_eq
  case isActive =>
    intro name
    have same : a.get SitePlugin site name = b.get SitePlugin site name := get .sitePlugin name
    rw [Database.isActive, Database.isActive, same]
  case products => exact alike.list_eq reachable reachable' (apart (k := .product) nofun)
  case coupons => exact alike.list_eq reachable reachable' (apart (k := .coupon) nofun)
  case byStockStatus =>
    intro status
    rw [Database.listByStockStatus_eq reachable.undamaged,
      Database.listByStockStatus_eq reachable'.undamaged]
    apply alike.answer_eq .product
    apply mergeSort_congr (k := .product) ((perm .product).filter _)
    intro r member r' member'
    exact apart (k := .product) nofun r (List.mem_filter.mp member).1 r'
      (List.mem_filter.mp member').1
  case plugins =>
    intro distinct
    apply alike.list_eq reachable reachable' (k := .sitePlugin)
    exact fun p stored q stored' same => distinct p stored q stored' (eqNoCase_of_listingKey same)
  case reordered =>
    intro listed ran
    obtain ⟨rfl, readable⟩ :=
      Database.answer_ok ((Database.list_eq (k := .sitePlugin) reachable.undamaged).symm.trans ran)
    refine ⟨_, (Database.list_eq (k := .sitePlugin) reachable'.undamaged).trans
      ((alike.answer_eq .sitePlugin rfl).symm.trans (readable _)), ?_⟩
    exact ((List.mergeSort_perm _ _).trans (perm .sitePlugin)).trans (List.mergeSort_perm _ _).symm
  case byCode =>
    intro code single
    rw [Database.findByCode_eq reachable.undamaged, Database.findByCode_eq reachable'.undamaged]
    apply alike.answer_eq .coupon
    apply List.find?_eq_find?_of_perm (perm .coupon)
    rintro c ⟨stored, code⟩ d ⟨stored', code'⟩
    exact single c stored d stored' code code'
  case found =>
    intro code
    rw [Database.findByCode_eq reachable.undamaged, Database.findByCode_eq reachable'.undamaged,
      Database.answer_map, Database.answer_map]
    apply alike.answer_eq .coupon
    rw [Bool.eq_iff_iff, List.find?_isSome, List.find?_isSome]
    simp only [alike.records .coupon]

end StoredAlike

end SiteCache.Store
