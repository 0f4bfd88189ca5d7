import SiteCache.Proofs.Store.Composition
import SiteCache.Proofs.Sync.Fetching
import SiteCache.Sync.Synchronizer

set_option autoImplicit false

namespace SiteCache.Sync

open Remote (Service)
open Store

section

variable {α : Type} {work : SessionM α} {db db' : Database}

theorem inSession_ok {a : α} (ran : inSession work db = (.ok a, db')) :
    ∃ session session', db.begin = .ok session ∧ work.run session = (.ok a, session') ∧
      db.commit session' = (.ok (), db') := by
  unfold inSession at ran
  split at ran
  · cases ran
  · rename_i session begun
    split at ran
    · cases ran
    · rename_i a' session' worked
      split at ran <;> rename_i committed
      · cases ran
      · cases ran
        exact ⟨session, session', begun, worked, committed⟩

theorem inSession_contents_of_error {e : DbError} (ran : inSession work db = (.error e, db')) :
    ∃ supply, db' = { db with supply := supply } := by
  unfold inSession at ran
  split at ran
  · cases ran
    exact ⟨_, rfl⟩
  · split at ran
    · cases ran
      exact ⟨_, rfl⟩
    · split at ran <;> rename_i committed
      · cases ran
        obtain ⟨-, rfl⟩ := commit_error committed
        exact ⟨_, rfl⟩
      · cases ran

theorem reconciles_of_inSession {k : ResourceKind} {site : SiteId} {records : List (RecordOf k)}
    {mode : ReconcileMode} {summary : Summary}
    (ran : inSession (Session.apply (Plan.build site records mode)) db = (.ok summary, db')) :
    Reconciles db site records mode summary db' := by
  obtain ⟨session, session', begun, worked, committed⟩ := inSession_ok ran
  exact ⟨session, session', begun, worked, committed⟩

theorem reachable_inSession (reachable : db.Reachable) (calls : List SessionCall)
    (same : ∀ s, (work.run s).2 = s.after calls) : (inSession work db).2.Reachable := by
  unfold inSession
  split
  · exact reachable
  · rename_i session begun
    have after := same session
    split <;> rename_i ran <;> rw [ran] at after <;> dsimp only at after <;> subst after
    · exact .rollback calls reachable begun
    · have committed := reachable.commit calls begun
      split <;> rename_i ended <;> rw [ended] at committed <;> exact committed

end

section

variable {σ : Type} {remote : Service σ} {k : ResourceKind} {paging : Paging} {site : SiteId}
  {q : ListQuery} {mode : ReconcileMode} {w : World σ}

theorem onStore_run {α : Type} (work : SessionM α) (w : World σ) :
    (onStore work).run w =
      ((inSession work w.db).1.mapError fun e => .error (.storage e),
        { w with db := (inSession work w.db).2 }) := rfl

theorem fetchAndApply_run (w : World σ) :
    (fetchAndApply remote k paging site q mode).run w =
      match (fetchAll remote k paging site q).run w.remote with
      | (.error e, next) => (.error e, { w with remote := next })
      | (.ok records, next) =>
        (onStore (Session.apply (Plan.build site records mode))).run { w with remote := next } := by
  simp only [fetchAndApply, onRemote, StateT.run, bind, StateT.bind]
  cases fetchAll remote k paging site q w.remote with
  | mk result next => cases result <;> rfl

theorem synchronize_run (w : World σ) :
    (synchronize remote k paging site q mode).run w =
      match (fetchAndApply remote k paging site q mode).run w with
      | (result, w') => (result, w'.emit (Event.ofOutcome? k site result)) := rfl

theorem reset_run (k : ResourceKind) (site : SiteId) (w : World σ) :
    (reset k site).run w =
      (((inSession (Session.deleteAll (RecordOf k) site) w.db).1.mapError fun e =>
          Failure.error (.storage e)).map fun n => { Summary.zero with deleted := n },
        { w with db := (inSession (Session.deleteAll (RecordOf k) site) w.db).2 }) := rfl

theorem fetchAndApply_events (w : World σ) :
    ((fetchAndApply remote k paging site q mode).run w).2.events = w.events := by
  rw [fetchAndApply_run]
  split <;> rfl

theorem fetchAndApply_contents_of_error {f : Failure}
    (failed : ((fetchAndApply remote k paging site q mode).run w).1 = .error f) :
    ((fetchAndApply remote k paging site q mode).run w).2.db.contents = w.db.contents := by
  rw [fetchAndApply_run] at failed ⊢
  cases fetched : (fetchAll remote k paging site q).run w.remote with
  | mk result next =>
    rw [fetched] at failed
    cases result with
    | error e => rfl
    | ok records =>
      dsimp only at failed ⊢
      rw [onStore_run] at failed ⊢
      cases worked : inSession (Session.apply (Plan.build site records mode)) w.db with
      | mk outcome db =>
        simp only [worked] at failed ⊢
        cases outcome with
        | error e =>
          obtain ⟨supply, rfl⟩ := inSession_contents_of_error worked
          rfl
        | ok summary => cases failed

theorem synchronize_ok {summary : Summary} {w' : World σ}
    (ran : (synchronize remote k paging site q mode).run w = (.ok summary, w')) :
    ∃ batches, Collected remote k site q w.remote paging batches w'.remote ∧
      inSession (Session.apply (Plan.build site batches.flatten mode)) w.db =
        (.ok summary, w'.db) := by
  rw [synchronize_run, fetchAndApply_run] at ran
  cases fetched : (fetchAll remote k paging site q).run w.remote with
  | mk result next =>
    rw [fetched] at ran
    cases result with
    | error e => cases ran
    | ok records =>
      obtain ⟨batches, collected, rfl⟩ := fetchAll_ok fetched
      dsimp only at ran
      rw [onStore_run] at ran
      cases worked : inSession (Session.apply (Plan.build site batches.flatten mode)) w.db with
      | mk outcome db =>
        simp only [worked] at ran
        cases outcome with
        | error e => cases ran
        | ok s =>
          cases ran
          exact ⟨batches, collected, worked⟩

end

end SiteCache.Sync
