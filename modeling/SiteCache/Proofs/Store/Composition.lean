import SiteCache.Proofs.Store.Mirror
import SiteCache.Proofs.Store.Transaction

set_option autoImplicit false

namespace SiteCache.Store

section

variable {R K : Type} [DecidableEq K] [NaturalKey K] [Cached R K]

-- What a table holds for a key of a site.
def recordAt (site : SiteId) (rows : List (Row R)) (key : K) : Option R :=
  (rows.find? (·.isAt site key)).map (·.record)

theorem recordAt_eq_some {supply : Nat} {rows : List (Row R)} (kept : Kept supply rows)
    (site : SiteId) (key : K) (r : R) :
    recordAt site rows key = some r ↔
      ∃ row ∈ rows, row.identity = (site, key) ∧ row.record = r := by
  rw [recordAt, Option.map_eq_some_iff]
  exact exists_congr fun row => (and_congr_left' (kept.find?_isAt site key row)).trans and_assoc

theorem recordAt_eq_none (site : SiteId) (rows : List (Row R)) (key : K) :
    recordAt site rows key = none ↔ ∀ row ∈ rows, row.identity ≠ (site, key) := by
  simp only [recordAt, Option.map_eq_none_iff, List.find?_eq_none, isAt_iff, ne_eq]

theorem mem_settled (plan : Plan R) (supply : Nat) (rows : List (Row R)) (row : Row R) :
    row ∈ settled plan supply rows ↔ row ∈ written plan.site plan.records supply rows ∧
      (plan.mode.deletesStale → isStale plan row = false) := by
  unfold settled
  cases plan.mode.deletesStale <;> simp

theorem settled_of_unchanged {plan : Plan R} {supply : Nat} {rows : List (Row R)}
    (unchanged : written plan.site plan.records supply rows = rows)
    (stay : plan.mode.deletesStale → ∀ row ∈ rows, isStale plan row = false) :
    settled plan supply rows = rows := by
  rw [settled, unchanged]
  split <;> rename_i deletes
  · exact List.filter_eq_self.mpr fun row member => by simp [stay deletes row member]
  · rfl

variable {site : SiteId} {records : List R} {mode : ReconcileMode} {supply : Nat}
  {rows : List (Row R)} {row : Row R} {key : K}

theorem latest_eq_none :
    Plan.latest site records key = none ↔ key ∉ fetchedKeys site records := by
  rw [← Option.not_isSome_iff_eq_none, Plan.latest_isSome, mem_fetchedKeys]

-- Plans of both modes write alike, and what `replace` deletes has no planned key.
theorem mem_settled_planned (identity : row.identity = (site, key))
    (planned : key ∈ fetchedKeys site records) :
    row ∈ settled (Plan.build site records mode) supply rows ↔
      row ∈ settled (Plan.build site records .replace) supply rows := by
  obtain ⟨ofSite, rfl⟩ := Prod.mk.inj identity
  rw [fetchedKeys_eq site records mode, List.mem_toFinset] at planned
  constructor
  · intro member
    exact settled_of_written ((mem_settled _ _ _ _).mp member).1 planned
  · intro member
    have written := (written_of_settled member ((isOf_iff site row).mpr ofSite)).1
    refine (mem_settled _ _ _ _).mpr ⟨written, fun _ => ?_⟩
    rw [← Bool.not_eq_true, isStale_iff]
    exact fun stale => stale.2 planned

theorem exists_settled_planned (mode : ReconcileMode) (supply : Nat) (rows : List (Row R))
    (planned : key ∈ fetchedKeys site records) :
    ∃ row ∈ settled (Plan.build site records mode) supply rows, row.identity = (site, key) := by
  have stored : key ∈ storedKeys site (settled (Plan.build site records .replace) supply rows) := by
    rw [storedKeys_settled]
    exact planned
  obtain ⟨row, member, identity⟩ := (mem_storedKeys _ _ _).mp stored
  exact ⟨row, (mem_settled_planned identity planned).mpr member, identity⟩

theorem latest_of_planned (member : row ∈ settled (Plan.build site records mode) supply rows)
    (identity : row.identity = (site, key)) (planned : key ∈ fetchedKeys site records) :
    Plan.latest site records key = some row.record ∧ row.damage = [] := by
  have mirrored := (mem_settled_planned identity planned).mp member
  obtain ⟨ofSite, rfl⟩ := Prod.mk.inj identity
  exact latest_of_settled mirrored ((isOf_iff site row).mpr ofSite)

theorem refresh_of_unplanned (identity : row.identity = (site, key))
    (unplanned : key ∉ fetchedKeys site records) :
    refresh site (Plan.build site records mode).records row = row := by
  rw [fetchedKeys_eq site records mode, List.mem_toFinset] at unplanned
  apply refresh_of_absent
  intro r member same
  rw [identity] at same
  exact unplanned (List.mem_map.mpr ⟨r, member, (Prod.mk.inj same).2.symm⟩)

theorem mem_settled_unplanned (identity : row.identity = (site, key))
    (unplanned : key ∉ fetchedKeys site records) :
    row ∈ settled (Plan.build site records mode) supply rows ↔
      row ∈ rows ∧ mode.deletesStale = false := by
  have stale : isStale (Plan.build site records mode) row = true := by
    obtain ⟨ofSite, rfl⟩ := Prod.mk.inj identity
    rw [fetchedKeys_eq site records mode, List.mem_toFinset] at unplanned
    exact (isStale_iff _ _).mpr ⟨ofSite, unplanned⟩
  have stays : (mode.deletesStale → isStale (Plan.build site records mode) row = false) ↔
      mode.deletesStale = false := by
    simp [stale]
  rw [mem_settled, show (Plan.build site records mode).mode = mode from rfl, stays]
  refine and_congr_left' ⟨?_, ?_⟩
  · intro member
    rcases exists_of_mem_written member with ⟨old, present, refreshed⟩ | issued
    · have same := refresh_identity site (Plan.build site records mode).records old
      change refresh site _ old = _ at refreshed
      rw [refreshed, identity] at same
      rw [refresh_of_unplanned same.symm unplanned] at refreshed
      exact refreshed ▸ present
    · -- A row that is issued has a planned record.
      rw [isStale_issue _ issued] at stale
      cases stale
  · intro member
    rw [← refresh_of_unplanned identity unplanned]
    exact refresh_mem_written member

theorem recordAt_settled {later : Nat} (kept : Kept supply rows)
    (kept' : Kept later (settled (Plan.build site records mode) supply rows)) (key : K) :
    recordAt site (settled (Plan.build site records mode) supply rows) key =
      (Plan.latest site records key).or
        (if mode.deletesStale then none else recordAt site rows key) := by
  by_cases planned : key ∈ fetchedKeys site records
  · obtain ⟨row, member, identity⟩ := exists_settled_planned mode supply rows planned
    rw [(latest_of_planned member identity planned).1, Option.some_or]
    exact (recordAt_eq_some kept' site key _).mpr ⟨row, member, identity, rfl⟩
  · rw [latest_eq_none.mpr planned, Option.none_or]
    split <;> rename_i deletes
    · rw [recordAt_eq_none]
      intro row member identity
      have stays := ((mem_settled_unplanned identity planned).mp member).2
      rw [deletes] at stays
      cases stays
    · ext r
      rw [recordAt_eq_some kept', recordAt_eq_some kept]
      refine exists_congr fun row => ?_
      constructor
      · rintro ⟨member, identity, record⟩
        exact ⟨((mem_settled_unplanned identity planned).mp member).1, identity, record⟩
      · rintro ⟨member, identity, record⟩
        have stays : mode.deletesStale = false := by simpa using deletes
        exact ⟨(mem_settled_unplanned identity planned).mpr ⟨member, stays⟩, identity, record⟩

theorem mem_storedKeys_settled :
    key ∈ storedKeys site (settled (Plan.build site records mode) supply rows) ↔
      key ∈ fetchedKeys site records ∨
        (key ∈ storedKeys site rows ∧ mode.deletesStale = false) := by
  rw [mem_storedKeys, mem_storedKeys]
  by_cases planned : key ∈ fetchedKeys site records
  · simpa [planned] using exists_settled_planned mode supply rows planned
  · constructor
    · rintro ⟨row, member, identity⟩
      obtain ⟨member, stays⟩ := (mem_settled_unplanned identity planned).mp member
      exact .inr ⟨⟨row, member, identity⟩, stays⟩
    · rintro (planned' | ⟨⟨row, member, identity⟩, stays⟩)
      · exact absurd planned' planned
      · exact ⟨row, (mem_settled_unplanned identity planned).mpr ⟨member, stays⟩, identity⟩

theorem key_mem_fetchedKeys {r : R} (member : r ∈ (Plan.build site records mode).records) :
    Resource.key r ∈ fetchedKeys site records := by
  rw [fetchedKeys_eq site records mode, List.mem_toFinset]
  exact List.mem_map.mpr ⟨r, member, rfl⟩

theorem isNew_settled {r : R} (member : r ∈ (Plan.build site records mode).records) :
    isNew site (settled (Plan.build site records mode) supply rows) r = false := by
  obtain ⟨row, stored, identity⟩ := exists_settled_planned mode supply rows
    (key_mem_fetchedKeys member)
  rw [← Bool.not_eq_true, isNew_iff, not_not]
  exact (mem_storedKeys _ _ _).mpr ⟨row, stored, identity⟩

theorem countP_isNew_settled :
    (Plan.build site records mode).records.countP
      (isNew site (settled (Plan.build site records mode) supply rows)) = 0 :=
  List.countP_eq_zero.mpr fun r member => by simp [isNew_settled member]

theorem countP_not_isNew_settled :
    (Plan.build site records mode).records.countP
        (fun r => !isNew site (settled (Plan.build site records mode) supply rows) r) =
      (Plan.build site records mode).records.length :=
  List.countP_eq_length.mpr fun r member => by simp [isNew_settled member]

theorem isStale_settled (deletes : mode.deletesStale)
    (member : row ∈ settled (Plan.build site records mode) supply rows) :
    isStale (Plan.build site records mode) row = false :=
  ((mem_settled _ _ _ _).mp member).2 deletes

theorem refresh_settled (member : row ∈ settled (Plan.build site records mode) supply rows) :
    refresh site (Plan.build site records mode).records row = row := by
  by_cases ofSite : Resource.site row.record = site
  · have identity : row.identity = (site, Resource.key row.record) := Prod.ext ofSite rfl
    by_cases planned : Resource.key row.record ∈ fetchedKeys site records
    · obtain ⟨latest, clean⟩ := latest_of_planned member identity planned
      rw [fetchedKeys_eq site records mode, List.mem_toFinset] at planned
      obtain ⟨r, inside, refreshed⟩ :=
        refresh_of_planned (Plan.ofSite_build site records mode) ((isOf_iff site row).mpr ofSite)
          planned
      change refresh site _ row = _ at refreshed
      have key := (Prod.mk.inj (refresh_identity site (Plan.build site records mode).records row)).2
      rw [refreshed] at key ⊢
      have same := (Plan.mem_records_build site records mode r).mp inside
      rw [key, latest] at same
      cases same
      rw [← clean]
    · exact refresh_of_unplanned identity planned
  · apply refresh_of_absent
    intro r _ same
    exact ofSite (Prod.mk.inj same).1

theorem countP_isStale_settled (deletes : mode.deletesStale) :
    (settled (Plan.build site records mode) supply rows).countP
      (isStale (Plan.build site records mode)) = 0 :=
  List.countP_eq_zero.mpr fun row member => by simp [isStale_settled deletes member]

theorem settled_settled (later : Nat) :
    settled (Plan.build site records mode) later
        (settled (Plan.build site records mode) supply rows) =
      settled (Plan.build site records mode) supply rows := by
  have noneNew : (Plan.build site records mode).records.filter
      (isNew site (settled (Plan.build site records mode) supply rows)) = [] :=
    List.filter_eq_nil_iff.mpr fun r member => by simp [isNew_settled member]
  have unchanged : (settled (Plan.build site records mode) supply rows).map
      (refresh site (Plan.build site records mode).records) =
        settled (Plan.build site records mode) supply rows :=
    (List.map_congr_left fun row member => refresh_settled member).trans (List.map_id _)
  apply settled_of_unchanged
  · change written site (Plan.build site records mode).records later _ = _
    rw [written, noneNew, unchanged, issue, List.append_nil]
  · exact fun deletes row member => isStale_settled deletes member

end

section

variable {k : ResourceKind} {site : SiteId} {db after : Database} {records : List (RecordOf k)}
  {mode : ReconcileMode} {summary : Summary}

def Reconciles (db : Database) (site : SiteId) (records : List (RecordOf k)) (mode : ReconcileMode)
    (summary : Summary) (after : Database) : Prop :=
  ∃ session session', db.begin = .ok session ∧
    (Session.apply (Plan.build site records mode)).run session = (.ok summary, session') ∧
    db.commit session' = (.ok (), after)

theorem exists_reconciles (willing : db.Willing) (site : SiteId) (records : List (RecordOf k))
    (mode : ReconcileMode) :
    ∃ summary after, Reconciles db site records mode summary after ∧ after.Willing := by
  obtain ⟨session, begun, -, accepts⟩ := begin_of_willing willing
  obtain ⟨summary, session', ran, accepts'⟩ := Session.apply_succeeds accepts site records mode
  exact ⟨summary, { db with contents := session'.contents, supply := session'.supply },
    ⟨session, session', begun, ran, commit_of_willing db accepts'⟩, willing⟩

theorem Reconciles.eq (kept : KeptContents db.supply db.contents)
    (pass : Reconciles db site records mode summary after) :
    let plan := Plan.build site records mode
    let rows := kindRows k db.contents
    after = { db with
      contents := Cached.setRows db.contents (settled plan db.supply rows)
      supply := db.supply + plan.records.countP (isNew site rows) } ∧
    Kept after.supply (settled plan db.supply rows) ∧
    summary = ⟨plan.records.countP (isNew site rows),
      plan.records.countP (fun r => !isNew site rows r),
      if mode.deletesStale then rows.countP (isStale plan) else 0⟩ := by
  obtain ⟨session, session', begun, ran, committed⟩ := pass
  have started := begin_ok begun
  subst started
  obtain ⟨rfl, kept', rfl⟩ := Session.apply_ok (kept k) (Plan.ofSite_build site records mode)
    (Plan.keys_build_nodup site records mode) ran
  obtain ⟨-, rfl⟩ := commit_ok committed
  rw [Session.tableRows_drawn] at kept'
  exact ⟨rfl, kept', rfl⟩

theorem Reconciles.kindRows_eq (kept : KeptContents db.supply db.contents)
    (pass : Reconciles db site records mode summary after) :
    kindRows k after.contents =
      settled (Plan.build site records mode) db.supply (kindRows k db.contents) := by
  rw [(pass.eq kept).1]
  exact Cached.rows_setRows _ _

theorem Reconciles.kept (kept : KeptContents db.supply db.contents)
    (pass : Reconciles db site records mode summary after) :
    KeptContents after.supply after.contents := by
  obtain ⟨same, kept', -⟩ := pass.eq kept
  subst same
  exact kept.setRows (Nat.le_add_right _ _) kept'

theorem Reconciles.recordAt_eq (kept : KeptContents db.supply db.contents)
    (pass : Reconciles db site records mode summary after) (key : KeyOf k) :
    recordAt site (kindRows k after.contents) key =
      (Plan.latest site records key).or
        (if mode.deletesStale then none else recordAt site (kindRows k db.contents) key) := by
  rw [pass.kindRows_eq kept]
  exact recordAt_settled (kept k) (pass.eq kept).2.1 key

end

/-- How the passes for a kind and a site of a store compose. -/
structure Composes (k : ResourceKind) (site : SiteId) (db : Database) : Prop where
  succeeds : db.Willing → ∀ (records : List (RecordOf k)) (mode : ReconcileMode),
    ∃ summary after, Reconciles db site records mode summary after ∧ after.Willing
  merged : ∀ (a b : List (RecordOf k)) (s₁ s₂ s : Summary) (between after atOnce : Database),
    Reconciles db site a .merge s₁ between → Reconciles between site b .merge s₂ after →
    Reconciles db site (a ++ b) .merge s atOnce →
    recordAt site (kindRows k after.contents) = recordAt site (kindRows k atOnce.contents)
  replaced : ∀ (a b : List (RecordOf k)) (mode : ReconcileMode) (s₁ s₂ s : Summary)
    (between after alone : Database),
    Reconciles db site a mode s₁ between → Reconciles between site b .replace s₂ after →
    Reconciles db site b .replace s alone →
    recordAt site (kindRows k after.contents) = recordAt site (kindRows k alone.contents)
  repeated : ∀ (records : List (RecordOf k)) (mode : ReconcileMode) (s₁ s₂ : Summary)
    (once twice : Database),
    Reconciles db site records mode s₁ once → Reconciles once site records mode s₂ twice →
    twice = once ∧ s₂ = ⟨0, (Plan.build site records mode).records.length, 0⟩
  keys : ∀ (records : List (RecordOf k)) (s : Summary) (after : Database),
    Reconciles db site records .merge s after →
    storedKeys site (kindRows k db.contents) ⊆ storedKeys site (kindRows k after.contents)
  untouched : ∀ (records : List (RecordOf k)) (s : Summary) (after : Database),
    Reconciles db site records .merge s after → ∀ row ∈ kindRows k db.contents, row.isOf site →
    Resource.key row.record ∉ fetchedKeys site records → row ∈ kindRows k after.contents

theorem passes_compose {db : Database} (reachable : db.Reachable) (k : ResourceKind)
    (site : SiteId) : Composes k site db := by
  have kept := reachable.kept
  constructor
  case succeeds => exact fun willing => exists_reconciles willing site
  case merged =>
    intro a b s₁ s₂ s between after atOnce first second whole
    funext key
    rw [second.recordAt_eq (first.kept kept), first.recordAt_eq kept, whole.recordAt_eq kept,
      Plan.latest_append]
    exact (Option.or_assoc ..).symm
  case replaced =>
    intro a b mode s₁ s₂ s between after alone first second single
    funext key
    rw [second.recordAt_eq (first.kept kept), single.recordAt_eq kept]
    rfl
  case repeated =>
    intro records mode s₁ s₂ once twice first second
    obtain ⟨same, -, rfl⟩ := second.eq (first.kept kept)
    rw [first.kindRows_eq kept, settled_settled, countP_isNew_settled,
      ← first.kindRows_eq kept] at same
    refine ⟨?_, ?_⟩
    · rw [same, kindRows, Cached.setRows_rows, Nat.add_zero]
    · rw [first.kindRows_eq kept, countP_isNew_settled, countP_not_isNew_settled]
      split <;> rename_i deletes
      · rw [countP_isStale_settled deletes]
      · rfl
  case keys =>
    intro records s after pass key stored
    rw [pass.kindRows_eq kept, mem_storedKeys_settled]
    exact .inr ⟨stored, rfl⟩
  case untouched =>
    intro records s after pass row member ofSite unplanned
    rw [pass.kindRows_eq kept]
    have identity : row.identity = (site, Resource.key row.record) :=
      Prod.ext ((isOf_iff site row).mp ofSite) rfl
    exact (mem_settled_unplanned identity unplanned).mpr ⟨member, rfl⟩

def seasonResponse : List (RecordOf .coupon) :=
  [seasonCoupon 2 "winter", seasonCoupon 1 "autumn", .new ⟨9⟩ 3 "foreign" .epoch,
    seasonCoupon 2 "spring"]

theorem summerStore_composes : summerStore.Reachable ∧ Composes .coupon ⟨7⟩ summerStore ∧
    ∃ once twice, Reconciles summerStore ⟨7⟩ seasonResponse .replace ⟨1, 1, 0⟩ once ∧
      Reconciles once ⟨7⟩ seasonResponse .replace ⟨0, 2, 0⟩ twice ∧
      twice = once ∧ kindRows .coupon once.contents =
        [⟨.issued 0, seasonCoupon 1 "autumn", []⟩, ⟨.issued 1, seasonCoupon 2 "spring", []⟩] := by
  have reachable : summerStore.Reachable := .commit _ .new rfl
  have willing : summerStore.Willing := ⟨rfl, rfl, fun _ => rfl⟩
  have composes := passes_compose reachable .coupon ⟨7⟩
  obtain ⟨s₁, once, first, willing⟩ := composes.succeeds willing seasonResponse .replace
  obtain ⟨s₂, twice, second, -⟩ := exists_reconciles willing ⟨7⟩ seasonResponse .replace
  obtain ⟨same, counted⟩ := composes.repeated _ _ _ _ _ _ first second
  have summary : s₁ = ⟨1, 1, 0⟩ := (first.eq reachable.kept).2.2.trans rfl
  have again : s₂ = ⟨0, 2, 0⟩ := counted.trans rfl
  subst summary again
  exact ⟨reachable, composes, once, twice, first, second, same, first.kindRows_eq reachable.kept⟩

end SiteCache.Store
