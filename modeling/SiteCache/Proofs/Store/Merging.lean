import SiteCache.Proofs.Store.Composition

set_option autoImplicit false

namespace SiteCache.Store

section

variable {R K : Type} [DecidableEq K] [NaturalKey K] [Cached R K]

structure Merged (site : SiteId) (records : List R) (rows rows' : List (Row R))
    (summary : Summary) : Prop where
  planned : ∀ key ∈ fetchedKeys site records, ∃ row ∈ rows', row.identity = (site, key) ∧
    Plan.latest site records key = some row.record ∧ row.damage = []
  others : ∀ row : Row R, (Resource.site row.record = site →
    Resource.key row.record ∉ fetchedKeys site records) → (row ∈ rows' ↔ row ∈ rows)
  retained : ∀ row ∈ rows, ∃ row' ∈ rows', SameRow row' row
  counted : summary = ⟨(fetchedKeys site records \ storedKeys site rows).card,
    (fetchedKeys site records ∩ storedKeys site rows).card, 0⟩

variable {site : SiteId} {records : List R} {supply : Nat} {rows : List (Row R)}

theorem mem_settled_other {row : Row R} (other : Resource.site row.record = site →
    Resource.key row.record ∉ fetchedKeys site records) :
    row ∈ settled (Plan.build site records .merge) supply rows ↔ row ∈ rows := by
  have unplanned {row' : Row R} (same : row'.identity = row.identity) :
      ∀ r ∈ (Plan.build site records .merge).records, row'.identity ≠ (site, Resource.key r) := by
    intro r member here
    obtain ⟨ofSite, key⟩ := Prod.mk.inj (same.symm.trans here)
    exact other ofSite (key ▸ key_mem_fetchedKeys member)
  rw [mem_settled]
  constructor
  · rintro ⟨member, -⟩
    rcases exists_of_mem_written member with ⟨old, present, refreshed⟩ | issued
    · have same := refresh_identity site (Plan.build site records .merge).records old
      change refresh site _ old = _ at refreshed
      rw [refreshed] at same
      rw [refresh_of_absent (unplanned same.symm)] at refreshed
      exact refreshed ▸ present
    · have planned := (List.mem_filter.mp (mem_issue issued).1).1
      exact (unplanned rfl _ planned (Prod.ext (Plan.isLocal_of_mem_build planned) rfl)).elim
  · intro member
    have stays := refresh_of_absent (unplanned (rfl : row.identity = _))
    exact ⟨stays ▸ refresh_mem_written member, nofun⟩

theorem merged_settled (site : SiteId) (records : List R) (supply : Nat) (rows : List (Row R)) :
    Merged site records rows (settled (Plan.build site records .merge) supply rows)
      ⟨(Plan.build site records .merge).records.countP (isNew site rows),
        (Plan.build site records .merge).records.countP (fun r => !isNew site rows r), 0⟩ := by
  constructor
  case planned =>
    intro key planned
    obtain ⟨row, member, identity⟩ := exists_settled_planned .merge supply rows planned
    exact ⟨row, member, identity, latest_of_planned member identity planned⟩
  case others => exact fun row other => mem_settled_other other
  case retained =>
    intro row member
    exact ⟨refresh site (Plan.build site records .merge).records row,
      (mem_settled _ _ _ _).mpr ⟨refresh_mem_written member, nofun⟩,
      refresh_id _ _ row, refresh_identity _ _ row⟩
  case counted => rw [countP_isNew, countP_not_isNew]

end

namespace Session

variable {k : ResourceKind} {site : SiteId} {records : List (RecordOf k)} {summary : Summary}
  {s s' : Session}

theorem kindRows_drawn (rows : List (Row (RecordOf k))) (count : Nat) :
    kindRows k (s.drawn rows count).contents = rows :=
  Cached.rows_setRows _ _

theorem merge_ok (kept : KeptContents s.supply s.contents)
    (ran : (apply (Plan.build site records .merge)).run s = (.ok summary, s')) :
    KeptContents s'.supply s'.contents ∧
      Merged site records (kindRows k s.contents) (kindRows k s'.contents) summary ∧
      ∀ j ≠ k, kindRows j s'.contents = kindRows j s.contents := by
  obtain ⟨rfl, kept', rfl⟩ := apply_ok (kept k) (Plan.ofSite_build site records .merge)
    (Plan.keys_build_nodup site records .merge) ran
  rw [tableRows_drawn] at kept'
  refine ⟨kept.setRows (Nat.le_add_right _ _) kept', ?_, ?_⟩
  · rw [kindRows_drawn]
    exact merged_settled site records s.supply (kindRows k s.contents)
  · exact fun j other => kindRows_setRows_of_ne other _ _

end Session

end SiteCache.Store
