import SiteCache.Proofs.Sync.Failing

set_option autoImplicit false

namespace SiteCache.Sync

open Store
open Store.Session (tableRows refusal noTable upsert)

section

variable {R K : Type} [DecidableEq K] [NaturalKey K] [Cached R K]

-- An error that comes from the engine, whatever the tables hold.
def Faults (R : Type) {K : Type} [DecidableEq K] [NaturalKey K] [Cached R K] (s : Session)
    (e : DbError) : Prop :=
  (s.migrated = false ∧ e = noTable R) ∨ ∃ statement, s.refuses statement = some e

theorem faults_of_refusal {statements : List Statement} {s : Session} {e : DbError}
    (refused : refusal R statements s = some e) : Faults R s e := by
  unfold refusal at refused
  split at refused <;> rename_i migrated
  · obtain ⟨statement, -, refuses⟩ := List.exists_of_findSome?_eq_some refused
    exact .inr ⟨statement, refuses⟩
  · cases refused
    exact .inl ⟨by simpa using migrated, rfl⟩

theorem faults_of_find {site : SiteId} {key : K} {s : Session} {e : DbError}
    (failed : ((Session.find R site key).run s).1 = .error e) : Faults R s e := by
  rw [Session.find_run] at failed
  split at failed <;> rename_i refused
  · cases failed
    exact faults_of_refusal refused
  · cases failed

theorem faults_of_update {id : RowId} {r : R} {s : Session} {e : DbError}
    (present : ∃ row ∈ tableRows R s, row.id = id)
    (failed : ((Session.update id r).run s).1 = .error e) : Faults R s e := by
  rw [Session.update_run] at failed
  split at failed <;> rename_i refused
  · cases failed
    exact faults_of_refusal refused
  · split at failed <;> rename_i found
    · obtain ⟨row, member, same⟩ := present
      exact absurd (decide_eq_true same) (List.find?_eq_none.mp found row member)
    · split at failed <;> rename_i refused
      · cases failed
        exact faults_of_refusal refused
      · cases failed

theorem faults_of_insert {r : R} {s : Session} {e : DbError}
    (absent : ∀ row ∈ tableRows R s, row.identity ≠ (Resource.site r, Resource.key r))
    (failed : ((Session.insert r).run s).1 = .error e) : Faults R s e := by
  rw [Session.insert_run] at failed
  split at failed <;> rename_i refused
  · cases failed
    exact faults_of_refusal refused
  · split at failed <;> rename_i taken
    · obtain ⟨row, member, identity⟩ := List.any_eq_true.mp taken
      exact absurd ((isAt_iff _ _ _).mp identity) (absent row member)
    · cases failed

theorem faults_of_deleteStale {site : SiteId} {keys : List K} {s : Session} {e : DbError}
    (failed : ((Session.deleteStale R site keys).run s).1 = .error e) : Faults R s e := by
  rw [Session.deleteStale, Session.deleteWhere_run] at failed
  split at failed <;> rename_i refused
  · cases failed
    exact faults_of_refusal refused
  · split at failed <;> rename_i refused
    · cases failed
      exact faults_of_refusal refused
    · cases failed

theorem find?_written {site : SiteId} {records : List R} {supply : Nat} {rows : List (Row R)}
    {key : K} (other : ∀ r ∈ records, Resource.key r ≠ key) :
    (written site records supply rows).find? (·.isAt site key) =
      rows.find? (·.isAt site key) := by
  have noneIssued : (issue supply (records.filter (isNew site rows))).find? (·.isAt site key) =
      none := by
    rw [List.find?_eq_none]
    intro row issued identity
    have present := (List.mem_filter.mp (mem_issue issued).1).1
    exact other _ present (Prod.mk.inj ((isAt_iff _ _ _).mp identity)).2
  have samePlace : (fun row : Row R => row.isAt site key) ∘ refresh site records =
      fun row => row.isAt site key := by
    funext row
    rw [Bool.eq_iff_iff, Function.comp_apply, isAt_iff, isAt_iff, refresh_identity]
  rw [written, List.find?_append, noneIssued, Option.or_none, List.find?_map, samePlace]
  cases found : rows.find? (·.isAt site key) with
  | none => rfl
  | some row =>
    have identity := (isAt_iff _ _ _).mp (List.find?_some found)
    rw [Option.map_some, refresh_of_absent]
    intro r member same
    exact other r member (Prod.mk.inj (same.symm.trans identity)).2

end

section

variable {k : ResourceKind} {site : SiteId} {s s₁ : Session} {r : RecordOf k}
  {done rest : List (RecordOf k)}

/-- A pass that began with `s` has come to a record of its plan with `s₁`, and `rest` will follow. -/
structure ComesTo (k : ResourceKind) (site : SiteId) (s s₁ : Session) (r : RecordOf k)
    (rest : List (RecordOf k)) : Prop where
  kept : KeptContents s₁.supply s₁.contents
  settings : s₁.migrated = s.migrated ∧ s₁.refuses = s.refuses
  untouched : ∀ r' ∈ r :: rest, (tableRows (RecordOf k) s₁).find? (·.isAt site (Resource.key r')) =
    (tableRows (RecordOf k) s).find? (·.isAt site (Resource.key r'))
  updates : ∀ id, ((Session.find (RecordOf k) site (Resource.key r)).run s₁).1 = .ok (some id) →
    (∃ row ∈ kindRows k s₁.contents, row.identity = (site, Resource.key r) ∧ row.id = id) ∧
    ∀ e, ((Session.update id r).run s₁).1 = .error e → Faults (RecordOf k) s e
  inserts : ((Session.find (RecordOf k) site (Resource.key r)).run s₁).1 = .ok none →
    (∀ row ∈ kindRows k s₁.contents, row.identity ≠ (Resource.site r, Resource.key r)) ∧
    ∀ e, ((Session.insert r).run s₁).1 = .error e → Faults (RecordOf k) s e

theorem Faults.of_settings (settings : s₁.migrated = s.migrated ∧ s₁.refuses = s.refuses)
    {R K : Type} [DecidableEq K] [NaturalKey K] [Cached R K] {e : DbError}
    (faults : Faults R s₁ e) : Faults R s e := by
  unfold Faults at faults
  rwa [settings.1, settings.2] at faults

theorem found_of_find {found : Option RowId}
    (ran : ((Session.find (RecordOf k) site (Resource.key r)).run s).1 = .ok found) :
    found = ((tableRows (RecordOf k) s).find? (·.isAt site (Resource.key r))).map (·.id) :=
  (Session.find_ok (Prod.ext ran rfl)).2

theorem present_of_find {id : RowId}
    (ran : ((Session.find (RecordOf k) site (Resource.key r)).run s).1 = .ok (some id)) :
    ∃ row ∈ kindRows k s.contents, row.identity = (site, Resource.key r) ∧ row.id = id := by
  obtain ⟨row, found, same⟩ := Option.map_eq_some_iff.mp (found_of_find ran).symm
  exact ⟨row, List.mem_of_find?_eq_some found, (isAt_iff _ _ _).mp (List.find?_some found), same⟩

theorem absent_of_find (ofSite : Resource.site r = site)
    (ran : ((Session.find (RecordOf k) site (Resource.key r)).run s).1 = .ok none) :
    ∀ row ∈ kindRows k s.contents, row.identity ≠ (Resource.site r, Resource.key r) := by
  have missing := List.find?_eq_none.mp (Option.map_eq_none_iff.mp (found_of_find ran).symm)
  intro row member identity
  rw [ofSite] at identity
  exact missing row member ((isAt_iff _ _ _).mpr identity)

theorem comesTo {summary summary₁ : Summary} (kept : KeptContents s.supply s.contents)
    (ofSite : ∀ r' ∈ done ++ r :: rest, Resource.site r' = site)
    (nodup : ((done ++ r :: rest).map Resource.key).Nodup)
    (ran : (done.foldlM (upsert site) summary).run s = (.ok summary₁, s₁)) :
    ComesTo k site s s₁ r rest := by
  rw [List.map_append, List.nodup_append] at nodup
  obtain ⟨doneNodup, -, apart⟩ := nodup
  obtain ⟨rfl, kept₁, -⟩ := Session.upserts_ok (kept k)
    (fun r' member => ofSite r' (List.mem_append_left _ member)) doneNodup ran
  have ofRecord := ofSite r (List.mem_append_right _ List.mem_cons_self)
  constructor
  case kept =>
    rw [Session.tableRows_drawn] at kept₁
    exact kept.setRows (Nat.le_add_right _ _) kept₁
  case settings => exact ⟨rfl, rfl⟩
  case untouched =>
    intro r' later
    rw [Session.tableRows_drawn]
    refine find?_written fun r'' earlier same => ?_
    exact apart _ (List.mem_map_of_mem earlier) _ (List.mem_map_of_mem later) same
  case updates =>
    intro id found
    have present := present_of_find found
    refine ⟨present, fun e failed => ?_⟩
    obtain ⟨row, member, -, same⟩ := present
    exact (faults_of_update ⟨row, member, same⟩ failed).of_settings ⟨rfl, rfl⟩
  case inserts =>
    intro found
    have absent := absent_of_find ofRecord found
    exact ⟨absent, fun e failed => (faults_of_insert absent failed).of_settings ⟨rfl, rfl⟩⟩

theorem settings_of_upserts {records : List (RecordOf k)} {summary summary₁ : Summary}
    (kept : KeptContents s.supply s.contents)
    (ofSite : ∀ r' ∈ records, Resource.site r' = site)
    (nodup : (records.map Resource.key).Nodup)
    (ran : (records.foldlM (upsert site) summary).run s = (.ok summary₁, s₁)) :
    s₁.migrated = s.migrated ∧ s₁.refuses = s.refuses := by
  obtain ⟨rfl, -, -⟩ := Session.upserts_ok (kept k) ofSite nodup ran
  exact ⟨rfl, rfl⟩

end

/-- What can happen while the plan of a response is applied. -/
structure Unfailing (k : ResourceKind) (site : SiteId) (records : List (RecordOf k))
    (mode : ReconcileMode) (s : Session) : Prop where
  succeeds : s.Willing → ∃ summary s',
    (Session.apply (Plan.build site records mode)).run s = (.ok summary, s')
  injected : ∀ e, ((Session.apply (Plan.build site records mode)).run s).1 = .error e →
    Faults (RecordOf k) s e
  everywhere : ∀ done r rest summary s₁, (Plan.build site records mode).records = done ++ r :: rest →
    (done.foldlM (upsert site) Summary.zero).run s = (.ok summary, s₁) →
    ComesTo k site s s₁ r rest

theorem apply_unfailing {s : Session} (kept : KeptContents s.supply s.contents) (k : ResourceKind)
    (site : SiteId) (records : List (RecordOf k)) (mode : ReconcileMode) :
    Unfailing k site records mode s := by
  have ofSite : ∀ r ∈ (Plan.build site records mode).records, Resource.site r = site :=
    Plan.ofSite_build site records mode
  have nodup := Plan.keys_build_nodup site records mode
  have reaches {done rest : List (RecordOf k)} {r : RecordOf k} {summary : Summary} {s₁ : Session}
      (split : (Plan.build site records mode).records = done ++ r :: rest)
      (ran : (done.foldlM (upsert site) Summary.zero).run s = (.ok summary, s₁)) :
      ComesTo k site s s₁ r rest :=
    comesTo kept (split ▸ ofSite) (split ▸ nodup) ran
  constructor
  case succeeds =>
    intro willing
    obtain ⟨summary, s', ran, -⟩ := Session.apply_succeeds willing site records mode
    exact ⟨summary, s', ran⟩
  case injected =>
    intro e failed
    cases apply_error_iff.mp failed with
    | record split ran fails =>
      have here := reaches split ran
      cases fails with
      | find failed => exact (faults_of_find failed).of_settings here.settings
      | update found failed => exact (here.updates _ found).2 e failed
      | insert found failed => exact (here.inserts found).2 e failed
    | delete _ ran failed =>
      exact (faults_of_deleteStale failed).of_settings (settings_of_upserts kept ofSite nodup ran)
  case everywhere => exact fun _ _ _ _ _ split ran => reaches split ran

def threeKeys : List (RecordOf .coupon) :=
  [.new ⟨7⟩ 2 "first" .epoch, .new ⟨7⟩ 1 "again" .epoch, .new ⟨9⟩ 3 "foreign" .epoch,
    .new ⟨7⟩ 2 "second" .epoch]

theorem oneCoupon_unfailing :
    KeptContents Session.oneCoupon.supply Session.oneCoupon.contents ∧
      Session.oneCoupon.Willing ∧ Unfailing .coupon ⟨7⟩ threeKeys .replace Session.oneCoupon ∧
      ∃ s', (Session.apply (Plan.build ⟨7⟩ threeKeys .replace)).run Session.oneCoupon =
        (.ok ⟨1, 1, 0⟩, s') := by
  have willing : Session.oneCoupon.Willing := ⟨rfl, fun _ => rfl⟩
  have unfailing := apply_unfailing Session.oneCoupon_kept .coupon ⟨7⟩ threeKeys .replace
  obtain ⟨summary, s', ran⟩ := unfailing.succeeds willing
  have counted : summary = ⟨1, 1, 0⟩ := by
    cases ran
    rfl
  exact ⟨Session.oneCoupon_kept, willing, unfailing, s', counted ▸ ran⟩

end SiteCache.Sync
