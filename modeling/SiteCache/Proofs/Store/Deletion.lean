import SiteCache.Proofs.Json.Shape
import SiteCache.Proofs.Store.Transaction
import SiteCache.Store.KeySet

set_option autoImplicit false

namespace SiteCache.Store

open Json (Reads decodeText)

theorem key_reads : Reads decodeKey keyJson := by
  rintro (s | n)
  · change (Json.textOf (Json.writtenLiteral s)).map KeyValue.text = _
    rw [Json.textOf_writtenLiteral]
    rfl
  · change (Json.Decode.int64 (Json.Value.int n.toInt).node).map KeyValue.integer = _
    rw [Json.int64_reads n]
    rfl

theorem decodeText_keysText {K : Type} [DecidableEq K] [NaturalKey K] (keys : List K) :
    decodeText (Json.Decode.list decodeKey) (keysText keys) =
      .ok (keys.map NaturalKey.value) := by
  rw [keysText, Json.decodeText_render]
  have read := Json.list_reads key_reads (keys.map NaturalKey.value)
  dsimp only at read
  rwa [List.map_map] at read

theorem value_injective (k : ResourceKind) :
    Function.Injective (NaturalKey.value : KeyOf k → KeyValue) := by
  intro a b same
  cases k with
  | sitePlugin => exact KeyValue.text.inj same
  | product => exact KeyValue.integer.inj same
  | coupon => exact KeyValue.integer.inj same

theorem contains_values {k : ResourceKind} (keys : List (KeyOf k)) (key : KeyOf k) :
    (keys.map NaturalKey.value).contains (NaturalKey.value key) = keys.contains key := by
  rw [Bool.eq_iff_iff, List.contains_iff_mem, List.contains_iff_mem,
    List.mem_map_of_injective (value_injective k)]

-- The engine reads the text for a set of keys as any reader of JSON does.
def ReadsKeys (k : ResourceKind) (valuesIn : String → List KeyValue) : Prop :=
  ∀ (keys : List (KeyOf k)) (values : List KeyValue),
    decodeText (Json.Decode.list decodeKey) (keysText keys) = .ok values →
    valuesIn (keysText keys) = values

structure Loses (k : ResourceKind) (gone : Row (RecordOf k) → Prop) [DecidablePred gone]
    (s s' : Session) (n : Nat) : Prop where
  rows : kindRows k s'.contents = (kindRows k s.contents).filter fun row => ¬ gone row
  count : n = ((kindRows k s.contents).filter fun row => gone row).length
  kinds : ∀ j, j ≠ k → kindRows j s'.contents = kindRows j s.contents
  supply : s'.supply = s.supply
  settings : s'.migrated = s.migrated ∧ s'.refuses = s.refuses

namespace Session

variable {k : ResourceKind} {site : SiteId} {keys : List (KeyOf k)} {s s' : Session} {n : Nat}

theorem deleteUnlisted_eq {valuesIn : String → List KeyValue} (reads : ReadsKeys k valuesIn)
    (site : SiteId) (keys : List (KeyOf k)) :
    deleteUnlisted (RecordOf k) valuesIn site (keysText keys) =
      deleteStale (RecordOf k) site keys := by
  have values := reads keys _ (decodeText_keysText keys)
  have same : (fun key : KeyOf k => !(valuesIn (keysText keys)).contains (NaturalKey.value key)) =
      fun key => !keys.contains key := by
    funext key
    rw [values, contains_values]
  rw [deleteUnlisted, same, deleteStale]

theorem deleteWhere_loses {stale : KeyOf k → Bool} {gone : Row (RecordOf k) → Prop}
    [DecidablePred gone] (same : ∀ row, doomed site stale row ↔ gone row)
    (ran : (deleteWhere (RecordOf k) site stale).run s = (.ok n, s')) : Loses k gone s s' n := by
  have picks : doomed site stale = fun row => decide (gone row) :=
    funext fun row => Bool.eq_iff_iff.mpr ((same row).trans decide_eq_true_iff.symm)
  obtain ⟨rfl, rfl⟩ := deleteWhere_ok ran
  constructor
  case rows =>
    rw [picks]
    simp only [kindRows, withRows, Cached.rows_setRows, tableRows, decide_not]
  case count => rw [picks, List.countP_eq_length_filter]; rfl
  case kinds => exact fun j other => kindRows_setRows_of_ne other _ _
  case supply => rfl
  case settings => exact ⟨rfl, rfl⟩

end Session

/-- What becomes of a session when all rows of a site but those with some keys are deleted. -/
structure DeletesOthers (k : ResourceKind) (valuesIn : String → List KeyValue) (site : SiteId)
    (keys : List (KeyOf k)) (s : Session) : Prop where
  bound : Session.deleteUnlisted (RecordOf k) valuesIn site (keysText keys) =
    Session.deleteStale (RecordOf k) site keys
  succeeds : s.Willing → ∃ n s', (Session.deleteStale (RecordOf k) site keys).run s = (.ok n, s')
  loses : ∀ n s', (Session.deleteStale (RecordOf k) site keys).run s = (.ok n, s') →
    Loses k (fun row => Resource.site row.record = site ∧ Resource.key row.record ∉ keys) s s' n
  refused : ∀ e s', (Session.deleteStale (RecordOf k) site keys).run s = (.error e, s') → s' = s
  all : Session.deleteUnlisted (RecordOf k) valuesIn site (keysText ([] : List (KeyOf k))) =
    Session.deleteAll (RecordOf k) site

theorem deletes_others {k : ResourceKind} {valuesIn : String → List KeyValue}
    (reads : ReadsKeys k valuesIn) (site : SiteId) (keys : List (KeyOf k)) (s : Session) :
    DeletesOthers k valuesIn site keys s where
  bound := Session.deleteUnlisted_eq reads site keys
  succeeds willing := ⟨_, _, Session.deleteWhere_succeeds willing site _⟩
  loses n s' ran := by
    refine Session.deleteWhere_loses (fun row => ?_) ran
    simp [doomed, isOf_iff]
  refused e s' failed := Session.deleteWhere_error failed
  all := by
    rw [Session.deleteUnlisted_eq reads]
    rfl

def jsonValues (text : String) : List KeyValue :=
  (decodeText (Json.Decode.list decodeKey) text).toOption.getD []

theorem jsonValues_reads (k : ResourceKind) : ReadsKeys k jsonValues := by
  intro keys values read
  rw [jsonValues, read]
  rfl

def awkwardPlugins : Session :=
  Session.after ⟨.empty, 0, true, fun _ => none⟩
    [.insert .sitePlugin (.new ⟨7⟩ "a/a" "Seo" .active),
      .insert .sitePlugin (.new ⟨7⟩ "b/b" "SEO" .active),
      .insert .sitePlugin (.new ⟨7⟩ "c/c" "12" .active),
      .insert .sitePlugin (.new ⟨7⟩ "d/d" "\"\\\x00é" .active),
      .insert .sitePlugin (.new ⟨8⟩ "a/a" "Seo" .active)]

def awkwardKeys : List (KeyOf .sitePlugin) := ["SEO", "\"\\\x00é", "absent", "SEO"]

theorem awkwardPlugins_deleted :
    ReadsKeys .sitePlugin jsonValues ∧
      keysText awkwardKeys = "[\"SEO\",\"\\\"\\\\\\u0000é\",\"absent\",\"SEO\"]" ∧
      ∃ s', (Session.deleteUnlisted SitePlugin jsonValues ⟨7⟩ (keysText awkwardKeys)).run
          awkwardPlugins = (.ok 2, s') ∧
        (kindRows .sitePlugin s'.contents).map Row.identity =
          [(⟨7⟩, "SEO"), (⟨7⟩, "\"\\\x00é"), (⟨8⟩, "Seo")] := by
  have deletes := deletes_others (jsonValues_reads .sitePlugin) ⟨7⟩ awkwardKeys awkwardPlugins
  obtain ⟨n, s', ran⟩ := deletes.succeeds ⟨rfl, fun _ => rfl⟩
  have loses := deletes.loses n s' ran
  have bound := deletes.bound
  change Session.deleteUnlisted SitePlugin jsonValues ⟨7⟩ (keysText awkwardKeys) = _ at bound
  have two : n = 2 := loses.count.trans (by decide)
  refine ⟨jsonValues_reads .sitePlugin, by decide +kernel, s', ?_, ?_⟩
  · rw [bound, ← two]
    exact ran
  · rw [loses.rows]
    decide

end SiteCache.Store
