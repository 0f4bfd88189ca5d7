import SiteCache.Proofs.Store.Rows
import SiteCache.Store.Session

set_option autoImplicit false

namespace SiteCache.Store.Session

section

variable {α β : Type}

@[simp] theorem run_pure (a : α) (s : Session) : (pure a : SessionM α).run s = (.ok a, s) := rfl

@[simp] theorem run_throw (e : DbError) (s : Session) :
    (throw e : SessionM α).run s = (.error e, s) := rfl

@[simp] theorem run_get (s : Session) : (get : SessionM Session).run s = (.ok s, s) := rfl

@[simp] theorem run_set (s s' : Session) : (set s' : SessionM Unit).run s = (.ok (), s') := rfl

@[simp] theorem run_bind (act : SessionM α) (next : α → SessionM β) (s : Session) :
    (act >>= next).run s =
      match act.run s with
      | (.ok a, s') => (next a).run s'
      | (.error e, s') => (.error e, s') := by
  change (ExceptT.bind act next).run s = _
  simp only [ExceptT.bind, ExceptT.run, ExceptT.mk, bind, StateT.bind]
  cases act s with
  | mk result s' => cases result <;> rfl

@[simp] theorem run_map (act : SessionM α) (f : α → β) (s : Session) :
    (f <$> act).run s =
      match act.run s with
      | (.ok a, s') => (.ok (f a), s')
      | (.error e, s') => (.error e, s') := by
  change (ExceptT.map f act).run s = _
  simp only [ExceptT.map, ExceptT.run, ExceptT.mk, bind, StateT.bind]
  cases act s with
  | mk result s' => cases result <;> rfl

theorem run_map_state (f : α → β) (act : SessionM α) (s : Session) :
    ((f <$> act).run s).2 = (act.run s).2 := by
  rw [run_map]
  split <;> rename_i ran <;> rw [ran]

end

section

variable (R : Type) {K : Type} [DecidableEq K] [NaturalKey K] [Cached R K]

def tableRows (s : Session) : List (Row R) := Cached.rows s.contents

def withRows {R K : Type} [DecidableEq K] [NaturalKey K] [Cached R K] (s : Session)
    (rows : List (Row R)) : Session :=
  { s with contents := Cached.setRows s.contents rows }

-- What keeps the engine from statements on a table.
def refusal (statements : List Statement) (s : Session) : Option DbError :=
  if s.migrated then statements.findSome? s.refuses else some (noTable R)

theorem migrated_of_refusal {statements : List Statement} {s : Session}
    (accepted : refusal R statements s = none) : s.migrated = true := by
  unfold refusal at accepted
  split at accepted
  · assumption
  · cases accepted

theorem accept_run (statements : List Statement) (s : Session) :
    (accept R statements).run s =
      (match refusal R statements s with
        | some e => .error e
        | none => .ok (tableRows R s), s) := by
  unfold accept refusal
  cases migrated : s.migrated with
  | false => simp [migrated]
  | true => cases refused : statements.findSome? s.refuses <;> simp [migrated, refused, tableRows]

theorem find_run (site : SiteId) (key : K) (s : Session) :
    (find R site key).run s =
      match refusal R [.find (Resource.kind R) site (NaturalKey.value key)] s with
      | some e => (.error e, s)
      | none => (.ok (((tableRows R s).find? (·.isAt site key)).map (·.id)), s) := by
  unfold find
  rw [run_bind, accept_run]
  cases refusal R _ s <;> rfl

end

section

variable {R K : Type} [DecidableEq K] [NaturalKey K] [Cached R K]

def inserted (s : Session) (r : R) : Session :=
  { s.withRows (tableRows R s ++ [freshRow s.supply r]) with supply := s.supply + 1 }

theorem insert_run (r : R) (s : Session) :
    (insert r).run s =
      match refusal R [.insert (Resource.kind R) (Resource.site r)
        (NaturalKey.value (Resource.key r))] s with
      | some e => (.error e, s)
      | none =>
        if (tableRows R s).any (·.isAt (Resource.site r) (Resource.key r)) then
          (.error (duplicate R), s)
        else (.ok (.issued s.supply), s.inserted r) := by
  unfold insert
  rw [run_bind, accept_run]
  cases refusal R _ s with
  | some e => rfl
  | none =>
    cases taken : (tableRows R s).any (·.isAt (Resource.site r) (Resource.key r)) with
    | true => simp [taken]
    | false =>
      simp only [taken, Bool.false_eq_true, if_false]
      rfl

theorem update_run (id : RowId) (r : R) (s : Session) :
    (update id r).run s =
      match refusal R [.update (Resource.kind R) (Resource.site r)
        (NaturalKey.value (Resource.key r))] s with
      | some e => (.error e, s)
      | none =>
        match (tableRows R s).find? (·.id = id) with
        | none => (.error (.notFound (Cached.table R) id), s)
        | some row =>
          match refusal R [.updateRow (Resource.kind R) (Resource.site row.record)
            (NaturalKey.value (Resource.key row.record))] s with
          | some e => (.error e, s)
          | none => (.ok (), s.withRows (overwriteAt id r (tableRows R s))) := by
  unfold update
  rw [run_bind, accept_run]
  cases refusal R [.update ..] s with
  | some e => rfl
  | none =>
    cases found : (tableRows R s).find? (·.id = id) with
    | none => simp [found]
    | some row =>
      simp only [found, run_bind, accept_run]
      cases refusal R _ s <;> rfl

theorem deleteWhere_run (site : SiteId) (stale : K → Bool) (s : Session) :
    (deleteWhere R site stale).run s =
      match refusal R [.delete (Resource.kind R) site] s with
      | some e => (.error e, s)
      | none =>
        match refusal R (((tableRows R s).filter (doomed site stale)).map fun row =>
          .deleteRow (Resource.kind R) site (NaturalKey.value (Resource.key row.record))) s with
        | some e => (.error e, s)
        | none =>
          (.ok ((tableRows R s).countP (doomed site stale)),
            s.withRows ((tableRows R s).filter fun row => !doomed site stale row)) := by
  have opened : deleteWhere R site stale = (do
      let rows ← accept R [.delete (Resource.kind R) site]
      let _ ← accept R ((rows.filter (doomed site stale)).map fun row =>
        .deleteRow (Resource.kind R) site (NaturalKey.value (Resource.key row.record)))
      store (rows.filter fun row => !doomed site stale row)
      pure (rows.countP (doomed site stale))) := rfl
  rw [opened, run_bind, accept_run]
  cases refusal R [.delete ..] s with
  | some e => rfl
  | none =>
    simp only [run_bind, accept_run]
    cases refusal R _ s <;> rfl

theorem find_ok {site : SiteId} {key : K} {s s' : Session} {found : Option RowId}
    (ran : (find R site key).run s = (.ok found, s')) :
    s' = s ∧ found = ((tableRows R s).find? (·.isAt site key)).map (·.id) := by
  rw [find_run] at ran
  split at ran <;> cases ran
  exact ⟨rfl, rfl⟩

theorem insert_ok {r : R} {s s' : Session} {id : RowId}
    (ran : (insert r).run s = (.ok id, s')) :
    s.migrated = true ∧ (tableRows R s).any (·.isAt (Resource.site r) (Resource.key r)) = false ∧
      id = .issued s.supply ∧ s' = s.inserted r := by
  rw [insert_run] at ran
  split at ran <;> rename_i accepted
  · cases ran
  · split at ran <;> rename_i taken
    · cases ran
    · cases ran
      exact ⟨migrated_of_refusal R accepted, by simpa using taken, rfl, rfl⟩

theorem insert_error {r : R} {s s' : Session} {e : DbError}
    (ran : (insert r).run s = (.error e, s')) : s' = s := by
  rw [insert_run] at ran
  split at ran
  · cases ran; rfl
  · split at ran <;> cases ran
    rfl

theorem update_ok {id : RowId} {r : R} {s s' : Session} (ran : (update id r).run s = (.ok (), s')) :
    s.migrated = true ∧ (∃ row ∈ tableRows R s, row.id = id) ∧
      s' = s.withRows (overwriteAt id r (tableRows R s)) := by
  rw [update_run] at ran
  split at ran <;> rename_i accepted
  · cases ran
  · split at ran
    · cases ran
    · rename_i row found
      have present : row ∈ tableRows R s ∧ row.id = id :=
        ⟨List.mem_of_find?_eq_some found, by simpa using List.find?_some found⟩
      split at ran <;> cases ran
      exact ⟨migrated_of_refusal R accepted, ⟨row, present⟩, rfl⟩

theorem update_error {id : RowId} {r : R} {s s' : Session} {e : DbError}
    (ran : (update id r).run s = (.error e, s')) : s' = s := by
  rw [update_run] at ran
  split at ran
  · cases ran; rfl
  · split at ran
    · cases ran; rfl
    · split at ran <;> cases ran
      rfl

theorem deleteWhere_ok {site : SiteId} {stale : K → Bool} {s s' : Session} {n : Nat}
    (ran : (deleteWhere R site stale).run s = (.ok n, s')) :
    n = (tableRows R s).countP (doomed site stale) ∧
      s' = s.withRows ((tableRows R s).filter fun row => !doomed site stale row) := by
  rw [deleteWhere_run] at ran
  split at ran
  · cases ran
  · split at ran <;> cases ran
    exact ⟨rfl, rfl⟩

theorem deleteAll_ok {site : SiteId} {s s' : Session} {n : Nat}
    (ran : (deleteAll R site).run s = (.ok n, s')) :
    n = (tableRows R s).countP (·.isOf site) ∧
      s' = s.withRows ((tableRows R s).filter (!·.isOf site)) := by
  have all : doomed site (fun _ => true) = fun row : Row R => row.isOf site := by
    funext row
    simp [doomed]
  have deleted := deleteWhere_ok ran
  rw [all] at deleted
  exact deleted

theorem deleteWhere_error {site : SiteId} {stale : K → Bool} {s s' : Session} {e : DbError}
    (ran : (deleteWhere R site stale).run s = (.error e, s')) : s' = s := by
  rw [deleteWhere_run] at ran
  split at ran
  · cases ran; rfl
  · split at ran <;> cases ran
    rfl

end

end SiteCache.Store.Session
