import SiteCache.Proofs.Store.Frame

set_option autoImplicit false

namespace SiteCache.Store

section

variable {R K : Type} [DecidableEq K] [NaturalKey K] [Cached R K]

-- A local id, unless it is one of those issued later.
def RowId.before? (base : Nat) : RowId → Option RowId
  | .issued n => if n < base then some (.issued n) else none
  | .other text => some (.other text)

structure Sight (R : Type) where
  id : Option RowId
  record : R
  damage : List Damage

def Row.sight (base : Nat) (row : Row R) : Sight R := ⟨row.id.before? base, row.record, row.damage⟩

def sights (base : Nat) (rows : List (Row R)) : List (Sight R) := rows.map (·.sight base)

theorem sight_freshRow {base supply : Nat} (later : base ≤ supply) (r : R) :
    (freshRow supply r).sight base = ⟨none, r, []⟩ := by
  simp [freshRow, Row.sight, RowId.before?, Nat.not_lt.mpr later]

theorem sights_filter (base : Nat) (keep : R → Bool) (rows : List (Row R)) :
    sights base (rows.filter fun row => keep row.record) =
      (sights base rows).filter fun x => keep x.record := by
  rw [sights, sights, List.filter_map]
  rfl

theorem records_sights (base : Nat) (rows : List (Row R)) :
    rows.map (·.record) = (sights base rows).map (·.record) := by
  rw [sights, List.map_map]
  rfl

def Sight.overlay (r : R) (x : Sight R) : Sight R :=
  if Resource.key x.record = Resource.key r then ⟨x.id, r, []⟩ else x

variable {site : SiteId} {supply : Nat} {rows : List (Row R)}

theorem find?_isAt_filter (key : K) :
    rows.find? (·.isAt site key) =
      (rows.filter (·.isOf site)).find? fun row => Resource.key row.record == key := by
  rw [List.find?_filter]
  congr 1
  funext row
  by_cases same : Resource.key row.record = key <;> simp [Row.isAt, same]

theorem Kept.find?_id (kept : Kept supply rows) {row : Row R} (member : row ∈ rows) :
    rows.find? (·.id = row.id) = some row := by
  cases found : rows.find? (·.id = row.id) with
  | none => exact absurd (List.find?_eq_none.mp found row member) (by simp)
  | some x =>
    have same : x.id = row.id := by simpa using List.find?_some found
    rw [kept.eq_of_id (List.mem_of_find?_eq_some found) member same]

theorem filter_overwriteAt (id : RowId) (r : R) :
    (overwriteAt id r rows).filter (·.isOf site) =
      overwriteAt id r (rows.filter (·.isOf site)) := by
  rw [overwriteAt, List.filter_map, overwriteAt]
  congr 1
  apply List.filter_congr
  intro row _
  exact isOf_of_identity (overwriteAt_identity id r row) site

theorem sights_overwriteAt (kept : Kept supply rows) {row : Row R} (member : row ∈ rows) {r : R}
    (identity : row.identity = (Resource.site r, Resource.key r)) (base : Nat) :
    sights base ((overwriteAt row.id r rows).filter (·.isOf (Resource.site r))) =
      (sights base (rows.filter (·.isOf (Resource.site r)))).map (Sight.overlay r) := by
  rw [filter_overwriteAt, overwriteAt, sights, sights, List.map_map, List.map_map]
  apply List.map_congr_left
  intro x inside
  obtain ⟨present, ofSite⟩ := List.mem_filter.mp inside
  -- Among the rows of the site, the local id and the key pick the same row.
  have same : x.id = row.id ↔ Resource.key x.record = Resource.key r := by
    constructor
    · intro id
      rw [kept.eq_of_id present member id]
      exact (Prod.mk.inj identity).2
    · intro key
      have atKey : x.identity = row.identity := by
        rw [identity, Row.identity, (isOf_iff _ x).mp ofSite, key]
      rw [kept.eq_of_identity present member atKey]
  simp only [Function.comp_apply, same, Sight.overlay, Row.sight]
  split <;> rename_i key
  · have atKey : x.identity = (Resource.site r, Resource.key r) := by
      rw [Row.identity, (isOf_iff _ x).mp ofSite, key]
    rw [overwrite_of_identity atKey]
  · rfl

end

/-- Two sessions that look the same to whoever sees one site of one kind only. -/
structure Alike (k : ResourceKind) (site : SiteId) (base : Nat) (s s' : Session) : Prop where
  migrated : s'.migrated = s.migrated
  refuses : s'.refuses = s.refuses
  kept : s.KeptSince base
  kept' : s'.KeptSince base
  rows : sights base (rowsOf k site s'.contents) = sights base (rowsOf k site s.contents)

namespace Alike

variable {k : ResourceKind} {site : SiteId} {base : Nat} {s s' s'' : Session}

theorem refl (k : ResourceKind) (site : SiteId) (kept : s.KeptSince base) :
    Alike k site base s s :=
  ⟨rfl, rfl, kept, kept, rfl⟩

theorem trans (first : Alike k site base s s') (second : Alike k site base s' s'') :
    Alike k site base s s'' :=
  ⟨second.migrated.trans first.migrated, second.refuses.trans first.refuses, first.kept,
    second.kept', second.rows.trans first.rows⟩

theorem refusal (alike : Alike k site base s s') (statements : List Statement) :
    Session.refusal (RecordOf k) statements s' = Session.refusal (RecordOf k) statements s := by
  rw [Session.refusal, Session.refusal, alike.migrated, alike.refuses]

theorem find? (alike : Alike k site base s s') (key : KeyOf k) :
    ((Session.tableRows (RecordOf k) s').find? (·.isAt site key)).map (·.sight base) =
      ((Session.tableRows (RecordOf k) s).find? (·.isAt site key)).map (·.sight base) := by
  have through (s : Session) :
      ((Session.tableRows (RecordOf k) s).find? (·.isAt site key)).map (·.sight base) =
        (sights base (rowsOf k site s.contents)).find? fun x => Resource.key x.record == key := by
    rw [find?_isAt_filter, sights, List.find?_map]
    rfl
  rw [through, through, alike.rows]

theorem insert {r : RecordOf k} (alike : Alike k (Resource.site r) base s s')
    (absent : (Session.tableRows (RecordOf k) s).any
      (·.isAt (Resource.site r) (Resource.key r)) = false)
    (absent' : (Session.tableRows (RecordOf k) s').any
      (·.isAt (Resource.site r) (Resource.key r)) = false) :
    Alike k (Resource.site r) base (s.inserted r) (s'.inserted r) where
  migrated := alike.migrated
  refuses := alike.refuses
  kept := alike.kept.change (.insert rfl absent)
  kept' := alike.kept'.change (.insert rfl absent')
  rows := by
    have added {s : Session} (kept : s.KeptSince base) :
        sights base (rowsOf k (Resource.site r) (s.inserted r).contents) =
          sights base (rowsOf k (Resource.site r) s.contents) ++ [⟨none, r, []⟩] := by
      have fresh := sight_freshRow kept.2 r
      simp only [rowsOf, kindRows, Session.inserted, Session.withRows, Cached.rows_setRows,
        List.filter_append, sights, List.map_append]
      simp [freshRow, Row.isOf, Session.tableRows] at fresh ⊢
      exact fresh
    rw [added alike.kept, added alike.kept', alike.rows]

theorem overwrite {r : RecordOf k} (alike : Alike k (Resource.site r) base s s')
    {row row' : Row (RecordOf k)} (member : row ∈ Session.tableRows (RecordOf k) s)
    (member' : row' ∈ Session.tableRows (RecordOf k) s')
    (identity : row.identity = (Resource.site r, Resource.key r))
    (identity' : row'.identity = (Resource.site r, Resource.key r)) :
    Alike k (Resource.site r) base
      (s.withRows (overwriteAt row.id r (Session.tableRows (RecordOf k) s)))
      (s'.withRows (overwriteAt row'.id r (Session.tableRows (RecordOf k) s'))) where
  migrated := alike.migrated
  refuses := alike.refuses
  kept := alike.kept.change
    (.overwrite r member ((isOf_iff _ row).mpr (Prod.mk.inj identity).1))
  kept' := alike.kept'.change
    (.overwrite r member' ((isOf_iff _ row').mpr (Prod.mk.inj identity').1))
  rows := by
    have laid {s : Session} (kept : s.KeptSince base) {row : Row (RecordOf k)}
        (member : row ∈ Session.tableRows (RecordOf k) s)
        (identity : row.identity = (Resource.site r, Resource.key r)) :
        sights base (rowsOf k (Resource.site r)
            (s.withRows (overwriteAt row.id r (Session.tableRows (RecordOf k) s))).contents) =
          (sights base (rowsOf k (Resource.site r) s.contents)).map (Sight.overlay r) := by
      rw [rowsOf, kindRows, Session.withRows, Cached.rows_setRows]
      exact sights_overwriteAt (kept.1 k) member identity base
    rw [laid alike.kept member identity, laid alike.kept' member' identity', alike.rows]

theorem delete (alike : Alike k site base s s') (stale : KeyOf k → Bool) :
    Alike k site base
      (s.withRows ((Session.tableRows (RecordOf k) s).filter fun row => !doomed site stale row))
      (s'.withRows ((Session.tableRows (RecordOf k) s').filter fun row =>
        !doomed site stale row)) where
  migrated := alike.migrated
  refuses := alike.refuses
  kept := alike.kept.change (.delete stale)
  kept' := alike.kept'.change (.delete stale)
  rows := by
    have left (s : Session) :
        rowsOf k site (s.withRows ((Session.tableRows (RecordOf k) s).filter fun row =>
            !doomed site stale row)).contents =
          (rowsOf k site s.contents).filter fun row => !stale (Resource.key row.record) := by
      rw [rowsOf, kindRows, Session.withRows, Cached.rows_setRows, rowsOf, List.filter_filter,
        List.filter_filter]
      apply List.filter_congr
      intro row _
      cases ofSite : row.isOf site <;> simp [doomed, ofSite]
    rw [left, left, sights_filter base fun r => !stale (Resource.key r),
      sights_filter base fun r => !stale (Resource.key r), alike.rows]

end Alike

namespace Session

/-- An act that cannot tell two such sessions apart. -/
def Blind (k : ResourceKind) (site : SiteId) (base : Nat) {α : Type} (act : SessionM α) : Prop :=
  ∀ s s', Alike k site base s s' →
    (act.run s').1 = (act.run s).1 ∧ Alike k site base (act.run s).2 (act.run s').2

section

variable {k : ResourceKind} {site : SiteId} {base : Nat} {α β : Type}

theorem blind_pure (a : α) : Blind k site base (pure a : SessionM α) :=
  fun _ _ alike => ⟨rfl, alike⟩

theorem blind_bind {act : SessionM α} {next : α → SessionM β} (first : Blind k site base act)
    (second : ∀ a, Blind k site base (next a)) : Blind k site base (act >>= next) := by
  intro s s' alike
  obtain ⟨same, after⟩ := first s s' alike
  rw [run_bind, run_bind]
  cases ran : act.run s with
  | mk result t =>
    cases ran' : act.run s' with
    | mk result' t' =>
      rw [ran, ran'] at same after
      cases same
      cases result with
      | error e => exact ⟨rfl, after⟩
      | ok a => exact second a t t' after

theorem blind_map {act : SessionM α} (f : α → β) (blind : Blind k site base act) :
    Blind k site base (f <$> act) := by
  have mapped : f <$> act = act >>= fun a => pure (f a) := (bind_pure_comp f act).symm
  rw [mapped]
  exact blind_bind blind fun a => blind_pure (f a)

theorem blind_foldlM {step : β → α → SessionM β} {as : List α}
    (one : ∀ b, ∀ a ∈ as, Blind k site base (step b a)) (b : β) :
    Blind k site base (as.foldlM step b) := by
  induction as generalizing b with
  | nil => exact blind_pure b
  | cons a rest ih =>
    rw [List.foldlM_cons]
    exact blind_bind (one b a List.mem_cons_self) fun b' =>
      ih (fun b a member => one b a (List.mem_cons_of_mem _ member)) b'

theorem update_blind {s s' : Session} {r : RecordOf k}
    (alike : Alike k (Resource.site r) base s s') {row row' : Row (RecordOf k)}
    (member : row ∈ tableRows (RecordOf k) s) (member' : row' ∈ tableRows (RecordOf k) s')
    (identity : row.identity = (Resource.site r, Resource.key r))
    (identity' : row'.identity = (Resource.site r, Resource.key r)) :
    ((update row'.id r).run s').1 = ((update row.id r).run s).1 ∧
      Alike k (Resource.site r) base ((update row.id r).run s).2 ((update row'.id r).run s').2 := by
  obtain ⟨ofSite, atKey⟩ := Prod.mk.inj identity
  obtain ⟨ofSite', atKey'⟩ := Prod.mk.inj identity'
  have found : (tableRows (RecordOf k) s).find? (·.id = row.id) = some row :=
    (alike.kept.1 k).find?_id member
  have found' : (tableRows (RecordOf k) s').find? (·.id = row'.id) = some row' :=
    (alike.kept'.1 k).find?_id member'
  rw [update_run, update_run, found, found', alike.refusal]
  cases refusal (RecordOf k) _ s with
  | some e => exact ⟨rfl, alike⟩
  | none =>
    dsimp only
    rw [alike.refusal, ofSite, atKey, ofSite', atKey']
    cases refusal (RecordOf k) _ s with
    | some e => exact ⟨rfl, alike⟩
    | none => exact ⟨rfl, alike.overwrite member member' identity identity'⟩

theorem upsert_blind {r : RecordOf k} (ofSite : Resource.site r = site) (summary : Summary) :
    Blind k site base (upsert site summary r) := by
  subst ofSite
  intro s s' alike
  have looked := alike.find? (Resource.key r)
  unfold upsert
  rw [run_bind, run_bind, find_run, find_run, alike.refusal]
  cases refusal (RecordOf k) _ s with
  | some e => exact ⟨rfl, alike⟩
  | none =>
    dsimp only
    cases found : (tableRows (RecordOf k) s).find? (·.isAt (Resource.site r) (Resource.key r)) with
    | some row =>
      rw [found, Option.map_some, Option.map_eq_some_iff] at looked
      obtain ⟨row', found', -⟩ := looked
      obtain ⟨member, identity⟩ := ((alike.kept.1 k).find?_isAt _ _ _).mp found
      obtain ⟨member', identity'⟩ := ((alike.kept'.1 k).find?_isAt _ _ _).mp found'
      obtain ⟨same, after⟩ := update_blind alike member member' identity identity'
      rw [found']
      simp only [Option.map_some, run_bind]
      cases ran : (update row.id r).run s with
      | mk result t =>
        cases ran' : (update row'.id r).run s' with
        | mk result' t' =>
          rw [ran, ran'] at same after
          cases same
          cases result <;> exact ⟨rfl, after⟩
    | none =>
      rw [found, Option.map_none, Option.map_eq_none_iff] at looked
      have absent : (tableRows (RecordOf k) s).any
          (·.isAt (Resource.site r) (Resource.key r)) = false := by
        simpa using found
      have absent' : (tableRows (RecordOf k) s').any
          (·.isAt (Resource.site r) (Resource.key r)) = false := by
        simpa using looked
      rw [looked]
      simp only [Option.map_none, run_bind, insert_run, alike.refusal, absent, absent',
        Bool.false_eq_true, if_false]
      cases refusal (RecordOf k) _ s with
      | some e => exact ⟨rfl, alike⟩
      | none => exact ⟨rfl, alike.insert absent absent'⟩

-- The rows to delete are rows of the site.
theorem filter_doomed (stale : KeyOf k → Bool) (s : Session) :
    (tableRows (RecordOf k) s).filter (doomed site stale) =
      (rowsOf k site s.contents).filter fun row => stale (Resource.key row.record) := by
  rw [rowsOf, List.filter_filter]
  apply List.filter_congr
  intro row _
  rw [doomed, Bool.and_comm]

theorem deleteWhere_blind (stale : KeyOf k → Bool) :
    Blind k site base (deleteWhere (RecordOf k) site stale) := by
  intro s s' alike
  have doomedRows : sights base ((tableRows (RecordOf k) s').filter (doomed site stale)) =
      sights base ((tableRows (RecordOf k) s).filter (doomed site stale)) := by
    rw [filter_doomed, filter_doomed, sights_filter base fun r => stale (Resource.key r),
      sights_filter base fun r => stale (Resource.key r), alike.rows]
  have statements : ((tableRows (RecordOf k) s').filter (doomed site stale)).map
        (fun row => Statement.deleteRow (Resource.kind (RecordOf k)) site
          (NaturalKey.value (Resource.key row.record))) =
      ((tableRows (RecordOf k) s).filter (doomed site stale)).map
        (fun row => Statement.deleteRow (Resource.kind (RecordOf k)) site
          (NaturalKey.value (Resource.key row.record))) := by
    have records := records_sights base ((tableRows (RecordOf k) s').filter (doomed site stale))
    rw [doomedRows, ← records_sights] at records
    simpa [Function.comp_def] using congrArg (List.map fun r => Statement.deleteRow
      (Resource.kind (RecordOf k)) site (NaturalKey.value (Resource.key r))) records
  have count : (tableRows (RecordOf k) s').countP (doomed site stale) =
      (tableRows (RecordOf k) s).countP (doomed site stale) := by
    have lengths := congrArg List.length doomedRows
    simpa [sights, List.countP_eq_length_filter] using lengths
  rw [deleteWhere_run, deleteWhere_run, alike.refusal, alike.refusal, statements, count]
  cases refusal (RecordOf k) _ s with
  | some e => exact ⟨rfl, alike⟩
  | none =>
    dsimp only
    cases refusal (RecordOf k) _ s with
    | some e => exact ⟨rfl, alike⟩
    | none => exact ⟨rfl, alike.delete stale⟩

theorem apply_blind {plan : Plan (RecordOf k)}
    (ofSite : ∀ r ∈ plan.records, Resource.site r = plan.site) :
    Blind k plan.site base (apply plan) := by
  unfold apply
  refine blind_bind (blind_foldlM (fun _ r member => upsert_blind (ofSite r member) _) _) ?_
  intro summary
  split
  · exact blind_bind (deleteWhere_blind _) fun _ => blind_pure _
  · exact blind_pure _

end

end Session

def Database.opened (db : Database) : Session := ⟨db.contents, db.supply, db.migrated, db.refuses⟩

structure Resembles (k : ResourceKind) (site : SiteId) (base : Nat) (db db' : Database) :
    Prop where
  isOpen : db'.isOpen = db.isOpen
  opened : Alike k site base db.opened db'.opened

namespace Resembles

variable {k : ResourceKind} {site : SiteId} {base : Nat} {db db' db'' : Database}

theorem refl (k : ResourceKind) (site : SiteId) (kept : db.opened.KeptSince base) :
    Resembles k site base db db :=
  ⟨rfl, .refl k site kept⟩

theorem trans (first : Resembles k site base db db') (second : Resembles k site base db' db'') :
    Resembles k site base db db'' :=
  ⟨second.isOpen.trans first.isOpen, first.opened.trans second.opened⟩

theorem begin_cases (alike : Resembles k site base db db') :
    (∃ e, db.begin = .error e ∧ db'.begin = .error e) ∨
      (db.begin = .ok db.opened ∧ db'.begin = .ok db'.opened) := by
  have refuses : db'.refuses = db.refuses := alike.opened.refuses
  unfold Database.begin
  rw [alike.isOpen, refuses]
  cases db.isOpen with
  | false => exact .inl ⟨_, rfl, rfl⟩
  | true =>
    cases db.refuses .begin with
    | some e => exact .inl ⟨e, rfl, rfl⟩
    | none => exact .inr ⟨rfl, by rw [← refuses]; rfl⟩

end Resembles

end SiteCache.Store
