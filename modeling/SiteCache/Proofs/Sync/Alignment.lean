import SiteCache.Proofs.Store.Sorting
import SiteCache.Proofs.Sync.Mirroring

set_option autoImplicit false

namespace SiteCache.Sync

open Remote (Service)
open Store

-- The row ids of a site are those of the rows for these keys, one by one.
def Aligned (k : ResourceKind) (site : SiteId) (db : Database) (keys : List (KeyOf k)) : Prop :=
  ∃ ids, db.rowIds (RecordOf k) site = .ok ids ∧ ids.length = keys.length ∧
    ∀ (i : Nat) (id : RowId) (key : KeyOf k), ids[i]? = some id → keys[i]? = some key →
      ∃ row ∈ kindRows k db.contents, row.identity = (site, key) ∧ row.id = id

theorem aligned_rowsByKey {db : Database} (isOpen : db.isOpen = true)
    (migrated : db.migrated = true) (k : ResourceKind) (site : SiteId) :
    Aligned k site db ((rowsByKey (rowsOf k site db.contents)).map fun row =>
      Resource.key row.record) := by
  refine ⟨_, Database.rowIds_eq.trans (Database.answer_of_open isOpen migrated _), by simp, ?_⟩
  intro i id key atId atKey
  simp only [List.getElem?_map, Option.map_eq_some_iff] at atId atKey
  obtain ⟨row, place, rfl⟩ := atId
  obtain ⟨row', place', rfl⟩ := atKey
  obtain rfl := Option.some.inj (place.symm.trans place')
  have member := (rowsByKey_perm _).mem_iff.mp (List.mem_of_getElem? place)
  obtain ⟨stored, ofSite⟩ := List.mem_filter.mp member
  exact ⟨row, stored, Prod.ext ((isOf_iff site row).mp ofSite) rfl, rfl⟩

theorem aligned_of_reconciles {k : ResourceKind} {site : SiteId} {db after : Database}
    {records : List (RecordOf k)} {summary : Summary} (kept : KeptContents db.supply db.contents)
    (isOpen : db.isOpen = true) (migrated : db.migrated = true)
    (pass : Reconciles db site records .replace summary after) :
    Aligned k site after (Plan.build site records .replace).keys := by
  have settings : after.isOpen = true ∧ after.migrated = true := by
    rw [(pass.eq kept).1]
    exact ⟨isOpen, migrated⟩
  have same : ((rowsByKey (rowsOf k site after.contents)).map fun row => Resource.key row.record) =
      (Plan.build site records .replace).keys := by
    apply eq_of_below (rowsByKey_increasing (storedKeys_nodup (pass.kept kept) k site))
      (Plan.canonical_build site records .replace).increasing
    intro key
    have stored : storedKeys site (kindRows k after.contents) = fetchedKeys site records := by
      rw [pass.kindRows_eq kept, storedKeys_settled]
    rw [((rowsByKey_perm _).map _).mem_iff, ← List.mem_toFinset,
      ← List.mem_toFinset (l := (Plan.build site records .replace).keys), ← fetchedKeys_eq,
      ← stored]
    rfl
  rw [← same]
  exact aligned_rowsByKey settings.1 settings.2 k site

/-- A listing has every row of its site, in the order of names or codes, and the other reads agree
with it. After a complete collection has been stored, the row ids are those of the plan's keys. -/
theorem reads_consistent {σ : Type} (remote : Service σ) {w : World σ} (reachable : w.db.Reachable)
    (isOpen : w.db.isOpen = true) (migrated : w.db.migrated = true) (k : ResourceKind)
    (site : SiteId) :
    (∃ listed ids, Listed k site w.db listed ids) ∧
      (∀ status, w.db.listByStockStatus site status =
        (w.db.list Product site).map (·.filter (·.stockStatus = status))) ∧
      (∀ a b : String, 0 ∉ Text.octets a → 0 ∉ Text.octets b →
        (compareNoCase a b = .lt ↔ folded a < folded b) ∧
          (compareNoCase a b = .eq ↔ folded a = folded b)) ∧
      (∀ a b : Int64, Below a b ↔ a < b) ∧
      (∀ a b : String, Below a b ↔ Text.octets a < Text.octets b) ∧
      ∀ paging q summary w',
        (synchronize remote k paging site q .replace).run w = (.ok summary, w') →
        ∃ batches, Collected remote k site q w.remote paging batches w'.remote ∧
          Aligned k site w'.db (Plan.build site batches.flatten .replace).keys := by
  refine ⟨⟨_, _, exists_listed reachable isOpen migrated k site⟩,
    listByStockStatus_filter reachable site, fun a b => compareNoCase_plain, below_int64,
    below_string, ?_⟩
  intro paging q summary w' ran
  obtain ⟨batches, collected, worked⟩ := synchronize_ok ran
  have pass := reconciles_of_inSession worked
  exact ⟨batches, collected, aligned_of_reconciles reachable.kept isOpen migrated pass⟩

def pluginNamed (name : String) : SitePlugin := .new ⟨7⟩ (name ++ "/main") name .active

-- Names that stand in one order by their octets and in another without regard to case.
def pluginWorld : World Remote.Script where
  remote := Remote.Script.empty.modify .sitePlugin fun part => part.serve ⟨7⟩
    [pluginNamed "seo", pluginNamed "Zoom", pluginNamed "élan", pluginNamed "SEO"]
  db := (Database.new.commit (Session.after ⟨.empty, 0, true, fun _ => none⟩
    [.insert .sitePlugin (pluginNamed "cart"), .insert .sitePlugin (pluginNamed "seo"),
      .insert .sitePlugin (pluginNamed "Zoom")])).2
  events := []

def storedPlugins : Outcome Summary × World Remote.Script :=
  (synchronize Remote.Script.service .sitePlugin .unpaged ⟨7⟩ .unpaged .replace).run pluginWorld

theorem pluginWorld_consistent :
    pluginWorld.db.Reachable ∧ pluginWorld.db.isOpen = true ∧ pluginWorld.db.migrated = true ∧
      (∃ listed ids, Listed .sitePlugin ⟨7⟩ pluginWorld.db listed ids) ∧
      storedPlugins.1 = .ok ⟨2, 2, 1⟩ ∧
      ∃ batches, Collected Remote.Script.service .sitePlugin ⟨7⟩ .unpaged pluginWorld.remote
          .unpaged batches storedPlugins.2.remote ∧
        Aligned .sitePlugin ⟨7⟩ storedPlugins.2.db
          (Plan.build ⟨7⟩ batches.flatten .replace).keys := by
  have reachable : pluginWorld.db.Reachable := .commit _ .new rfl
  have consistent := reads_consistent Remote.Script.service reachable rfl rfl .sitePlugin ⟨7⟩
  have ran : storedPlugins = (.ok ⟨2, 2, 1⟩, storedPlugins.2) := Prod.ext rfl rfl
  exact ⟨reachable, rfl, rfl, consistent.1, rfl, consistent.2.2.2.2.2 _ _ _ _ ran⟩

end SiteCache.Sync
