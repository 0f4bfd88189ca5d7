import SiteCache.Proofs.Sync.Synchronizing

set_option autoImplicit false

namespace SiteCache.Sync

open Remote (Service)
open Store

section

variable {R K : Type} [DecidableEq K] [NaturalKey K] [Cached R K]

inductive RecordFails (site : SiteId) (r : R) (s : Session) (e : DbError) : Prop
  | find : ((Session.find R site (Resource.key r)).run s).1 = .error e → RecordFails site r s e
  | update {id : RowId} : ((Session.find R site (Resource.key r)).run s).1 = .ok (some id) →
    ((Session.update id r).run s).1 = .error e → RecordFails site r s e
  | insert : ((Session.find R site (Resource.key r)).run s).1 = .ok none →
    ((Session.insert r).run s).1 = .error e → RecordFails site r s e

/-- A statement of a plan is refused after all earlier ones went well. -/
inductive ApplyFails (plan : Plan R) (s : Session) (e : DbError) : Prop
  | record {s' : Session} {summary : Summary} {done rest : List R} {r : R} :
    plan.records = done ++ r :: rest →
    (done.foldlM (Session.upsert plan.site) Summary.zero).run s = (.ok summary, s') →
    RecordFails plan.site r s' e → ApplyFails plan s e
  | delete {s' : Session} {summary : Summary} : plan.mode.deletesStale = true →
    (plan.records.foldlM (Session.upsert plan.site) Summary.zero).run s = (.ok summary, s') →
    ((Session.deleteStale R plan.site plan.keys).run s').1 = .error e → ApplyFails plan s e

inductive PassFails (plan : Plan R) (db : Database) (e : DbError) : Prop
  | begin : db.begin = .error e → PassFails plan db e
  | apply {session : Session} : db.begin = .ok session → ApplyFails plan session e →
    PassFails plan db e
  | commit {session s : Session} {summary : Summary} : db.begin = .ok session →
    (Session.apply plan).run session = (.ok summary, s) → s.refuses .commit = some e →
    PassFails plan db e

theorem foldlM_error_iff {α β : Type} {step : β → α → SessionM β} {as : List α} {b : β}
    {s : Session} {e : DbError} :
    ((as.foldlM step b).run s).1 = .error e ↔
      ∃ done a rest b' s', as = done ++ a :: rest ∧ (done.foldlM step b).run s = (.ok b', s') ∧
        ((step b' a).run s').1 = .error e := by
  induction as generalizing b s with
  | nil => simp
  | cons a rest ih =>
    rw [List.foldlM_cons, Session.run_bind]
    cases one : (step b a).run s with
    | mk result s₁ =>
      cases result with
      | error e₁ =>
        constructor
        · rintro ⟨⟩
          exact ⟨[], a, rest, b, s, rfl, rfl, by rw [one]⟩
        · rintro ⟨done, a', rest', b', s', split, ran, failed⟩
          -- The fold stops at the first element, so nothing can have come before.
          cases done with
          | nil =>
            cases ran
            cases split
            rwa [one] at failed
          | cons first done =>
            cases split
            rw [List.foldlM_cons, Session.run_bind, one] at ran
            cases ran
      | ok b₁ =>
        dsimp only
        rw [ih]
        constructor
        · rintro ⟨done, a', rest', b', s', rfl, ran, failed⟩
          refine ⟨a :: done, a', rest', b', s', rfl, ?_, failed⟩
          rw [List.foldlM_cons, Session.run_bind, one]
          exact ran
        · rintro ⟨done, a', rest', b', s', split, ran, failed⟩
          cases done with
          | nil =>
            cases ran
            cases split
            rw [one] at failed
            cases failed
          | cons first done =>
            cases split
            rw [List.foldlM_cons, Session.run_bind, one] at ran
            exact ⟨done, a', rest', b', s', rfl, ran, failed⟩

theorem upsert_error_iff {site : SiteId} {summary : Summary} {r : R} {s : Session} {e : DbError} :
    ((Session.upsert site summary r).run s).1 = .error e ↔ RecordFails site r s e := by
  unfold Session.upsert
  rw [Session.run_bind]
  cases looked : (Session.find R site (Resource.key r)).run s with
  | mk found s' =>
    have answered : ((Session.find R site (Resource.key r)).run s).1 = found := by rw [looked]
    cases found with
    | error e' =>
      constructor
      · rintro ⟨⟩
        exact .find answered
      · rintro (failed | ⟨found, -⟩ | ⟨found, -⟩)
        · cases answered.symm.trans failed
          rfl
        · cases answered.symm.trans found
        · cases answered.symm.trans found
    | ok found =>
      obtain ⟨rfl, -⟩ := Session.find_ok looked
      cases found with
      | some id =>
        dsimp only
        rw [Session.run_bind]
        have updateIff : RecordFails site r s' e ↔ ((Session.update id r).run s').1 = .error e := by
          constructor
          · rintro (failed | ⟨found, failed⟩ | ⟨found, -⟩)
            · cases answered.symm.trans failed
            · cases answered.symm.trans found
              exact failed
            · cases answered.symm.trans found
          · exact .update answered
        rw [updateIff]
        cases (Session.update id r).run s' with
        | mk result s₁ => cases result <;> simp
      | none =>
        dsimp only
        rw [Session.run_bind]
        have insertIff : RecordFails site r s' e ↔ ((Session.insert r).run s').1 = .error e := by
          constructor
          · rintro (failed | ⟨found, -⟩ | ⟨-, failed⟩)
            · cases answered.symm.trans failed
            · cases answered.symm.trans found
            · exact failed
          · exact .insert answered
        rw [insertIff]
        cases (Session.insert r).run s' with
        | mk result s₁ => cases result <;> simp

theorem apply_error_iff {plan : Plan R} {s : Session} {e : DbError} :
    ((Session.apply plan).run s).1 = .error e ↔ ApplyFails plan s e := by
  unfold Session.apply
  rw [Session.run_bind]
  cases upserted : (plan.records.foldlM (Session.upsert plan.site) Summary.zero).run s with
  | mk result s' =>
    cases result with
    | error e' =>
      have stopped : ((plan.records.foldlM (Session.upsert plan.site) Summary.zero).run s).1 =
          .error e' := by rw [upserted]
      constructor
      · rintro ⟨⟩
        obtain ⟨done, r, rest, summary, s₁, split, ran, failed⟩ := foldlM_error_iff.mp stopped
        exact .record split ran (upsert_error_iff.mp failed)
      · rintro (⟨split, ran, failed⟩ | ⟨-, ran, -⟩)
        · have same := foldlM_error_iff.mpr ⟨_, _, _, _, _, split, ran, upsert_error_iff.mpr failed⟩
          exact stopped.symm.trans same
        · cases upserted.symm.trans ran
    | ok summary =>
      -- All records have been written, so only the deletion can still be refused.
      have noRecord : ApplyFails plan s e ↔ plan.mode.deletesStale = true ∧
          ((Session.deleteStale R plan.site plan.keys).run s').1 = .error e := by
        constructor
        · rintro (⟨split, ran, failed⟩ | ⟨deletes, ran, failed⟩)
          · have same := foldlM_error_iff.mpr
              ⟨_, _, _, _, _, split, ran, upsert_error_iff.mpr failed⟩
            rw [upserted] at same
            cases same
          · cases upserted.symm.trans ran
            exact ⟨deletes, failed⟩
        · exact fun ⟨deletes, failed⟩ => .delete deletes upserted failed
      rw [noRecord]
      dsimp only
      cases plan.mode.deletesStale with
      | false => simp
      | true =>
        simp only [if_true, true_and, Session.run_bind]
        cases (Session.deleteStale R plan.site plan.keys).run s' with
        | mk result s₁ => cases result <;> simp

theorem inSession_apply_error_iff {plan : Plan R} {db : Database} {e : DbError} :
    (inSession (Session.apply plan) db).1 = .error e ↔ PassFails plan db e := by
  unfold inSession
  cases begun : db.begin with
  | error e' =>
    constructor
    · rintro ⟨⟩
      exact .begin begun
    · rintro (failed | ⟨opened, -⟩ | ⟨opened, -⟩)
      · cases begun.symm.trans failed
        rfl
      · cases begun.symm.trans opened
      · cases begun.symm.trans opened
  | ok session =>
    dsimp only
    cases worked : (Session.apply plan).run session with
    | mk result s =>
      cases result with
      | error e' =>
        have stopped : ((Session.apply plan).run session).1 = .error e' := by rw [worked]
        constructor
        · rintro ⟨⟩
          exact .apply begun (apply_error_iff.mp stopped)
        · rintro (failed | ⟨opened, failed⟩ | ⟨opened, ran, -⟩)
          · cases begun.symm.trans failed
          · cases begun.symm.trans opened
            cases stopped.symm.trans (apply_error_iff.mpr failed)
            rfl
          · cases begun.symm.trans opened
            cases worked.symm.trans ran
      | ok summary =>
        -- All statements have gone well, so only the commit can still be refused.
        have onlyCommit : PassFails plan db e ↔ s.refuses .commit = some e := by
          constructor
          · rintro (failed | ⟨opened, failed⟩ | ⟨opened, ran, refused⟩)
            · cases begun.symm.trans failed
            · cases begun.symm.trans opened
              have stopped := apply_error_iff.mpr failed
              rw [worked] at stopped
              cases stopped
            · cases begun.symm.trans opened
              cases worked.symm.trans ran
              exact refused
          · exact .commit begun worked
        rw [onlyCommit]
        cases refused : s.refuses .commit <;> simp [Database.commit, refused]

end

section

variable {σ : Type} {remote : Service σ} {k : ResourceKind} {paging : Paging} {site : SiteId}
  {q : ListQuery} {mode : ReconcileMode} {w : World σ} {e : SyncError}

/-- The first thing that goes wrong in a synchronization. -/
inductive FirstFailure (remote : Service σ) (k : ResourceKind) (paging : Paging) (site : SiteId)
    (q : ListQuery) (mode : ReconcileMode) (w : World σ) : SyncError → Prop
  | fetching {e : SyncError} : FetchFails remote k site q w.remote paging e →
    FirstFailure remote k paging site q mode w e
  | storing {batches : List (List (RecordOf k))} {next : σ} {e : DbError} :
    Collected remote k site q w.remote paging batches next →
    PassFails (Plan.build site batches.flatten mode) w.db e →
    FirstFailure remote k paging site q mode w (.storage e)

theorem fetchAndApply_error_iff :
    ((fetchAndApply remote k paging site q mode).run w).1 = fail e ↔
      FirstFailure remote k paging site q mode w e := by
  rw [fetchAndApply_run]
  cases fetched : (fetchAll remote k paging site q).run w.remote with
  | mk result next =>
    cases result with
    | error f =>
      have noStoring {e' : DbError} : ¬ ∃ batches next',
          Collected remote k site q w.remote paging batches next' ∧
          PassFails (Plan.build site batches.flatten mode) w.db e' := by
        rintro ⟨batches, next', collected, -⟩
        cases fetched.symm.trans (fetchAll_collected collected)
      constructor
      · intro failed
        cases failed
        exact .fetching ((fetchAll_fails_iff e).mp (by rw [fetched]; rfl))
      · rintro (fails | ⟨collected, fails⟩)
        · have same := (fetchAll_fails_iff e).mpr fails
          rw [fetched] at same
          cases same
          rfl
        · exact absurd ⟨_, _, collected, fails⟩ noStoring
    | ok records =>
      obtain ⟨batches, collected, rfl⟩ := fetchAll_ok fetched
      dsimp only
      rw [onStore_run]
      constructor
      · intro failed
        cases worked :
          (inSession (Session.apply (Plan.build site batches.flatten mode)) w.db).1 with
        | error e' =>
          simp only [worked, Except.mapError] at failed
          cases failed
          exact .storing collected (inSession_apply_error_iff.mp worked)
        | ok summary =>
          simp only [worked, Except.mapError] at failed
          cases failed
      · rintro (fails | ⟨collected', fails⟩)
        · have same := (fetchAll_fails_iff e).mpr fails
          rw [fetched] at same
          cases same
        · have same := fetched.symm.trans (fetchAll_collected collected')
          rw [Prod.mk.injEq, Except.ok.injEq] at same
          rw [← same.1] at fails
          simp only [inSession_apply_error_iff.mpr fails, Except.mapError]
          rfl

end

end SiteCache.Sync
