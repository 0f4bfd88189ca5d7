import SiteCache.Proofs.Sync.Locks
import SiteCache.Proofs.Sync.Steps

set_option autoImplicit false

namespace SiteCache.Sync

open Remote (Service)
open Store

namespace Task

variable {σ : Type} {remote : Service σ} {s s' : Shared σ} {t : Task} {lock : Nat}

theorem runAlone_of_step {p p' : Phase t.kind}
    (taken : (t.moveTo p).step remote s = some (s', p')) :
    (t.moveTo p).runAlone remote s = (t.moveTo p').runAlone remote s' := by
  rw [runAlone]
  split <;> rename_i same <;> cases taken.symm.trans same
  rfl

theorem runAlone_of_stuck (stuck : t.step remote s = none) : t.runAlone remote s = (s, t) := by
  rw [runAlone]
  split <;> rename_i same
  · rfl
  · cases stuck.symm.trans same

-- The state once a task has told its result and let go of its lock.
def left (s : Shared σ) (t : Task) (lock : Nat) (result : Outcome Summary) : Shared σ :=
  (s.tell t result).modifyLocks t.kind fun l => l.leave t.site lock

def leave (s : Shared σ) (t : Task) (lock : Nat) (result : Outcome Summary) : Shared σ × Task :=
  (left s t lock result, t.moveTo (.finished result))

theorem runAlone_ended (result : Outcome Summary) :
    (t.moveTo (.ended lock result)).runAlone remote s = leave s t lock result := by
  calc (t.moveTo (.ended lock result)).runAlone remote s
    _ = (t.moveTo (.told lock result)).runAlone remote (s.tell t result) := runAlone_of_step rfl
    _ = (t.moveTo (.unlocked lock result)).runAlone remote
        ((s.tell t result).modifyLocks t.kind (·.release lock)) := runAlone_of_step rfl
    _ = (t.moveTo (.unhandled result)).runAlone remote
        (((s.tell t result).modifyLocks t.kind (·.release lock)).modifyLocks t.kind
          (·.dropHandle lock)) := runAlone_of_step rfl
    _ = (t.moveTo (.finished result)).runAlone remote
        ((((s.tell t result).modifyLocks t.kind (·.release lock)).modifyLocks t.kind
          (·.dropHandle lock)).modifyLocks t.kind (·.sweep t.site)) := runAlone_of_step rfl
    _ = leave s t lock result := by
      rw [runAlone_of_stuck rfl, Shared.modifyLocks_modifyLocks, Shared.modifyLocks_modifyLocks]
      rfl

theorem step_of_pending {p : Phase t.kind} (pending : (p.pending? t.site).isSome = true) :
    ∃ s' p', (t.moveTo p).step remote s = some (s', p') := by
  cases p with
  | writing lock session summary rest deletion => cases rest <;> exact ⟨_, _, rfl⟩
  | deleting lock session summary deletion => exact ⟨_, _, rfl⟩
  | committing lock session summary => exact ⟨_, _, rfl⟩
  | _ => cases pending

-- An open session is taken to its end.
theorem runAlone_pending {p : Phase t.kind} {act : SessionM Summary} {session : Session}
    (held : p.held? = some lock) (pending : p.pending? t.site = some (act, session)) :
    (t.moveTo p).runAlone remote s =
      leave { s with writing := false, world.db := (finish s.world.db (act.run session)).2 } t lock
        ((finish s.world.db (act.run session)).1.mapError fun e => .error (.storage e)) := by
  obtain ⟨s', p', stepped⟩ : ∃ s' p', (t.moveTo p).step remote s = some (s', p') :=
    step_of_pending (by rw [pending]; rfl)
  have decreases := measure_of_step stepped
  obtain ⟨seen, taken⟩ : ∃ seen, Taken remote t.kind t.site t.work t.paging s p seen s' p' :=
    ⟨_, taken_of_step stepped⟩
  rw [runAlone_of_step stepped]
  cases taken with
  | inside inside =>
    cases inside with
    | worked held' held'' pending' pending'' same =>
      cases pending.symm.trans pending'
      cases held.symm.trans held'
      rw [runAlone_pending held'' pending'', same]
    | closed held' pending' ends =>
      cases pending.symm.trans pending'
      cases held.symm.trans held'
      rw [runAlone_ended, ends]
    | _ => cases pending
  | _ => cases pending
termination_by p.measure
decreasing_by exact decreases

theorem step_ready (closed : s.writing = false) (pass : Pass t.kind) :
    (t.moveTo (.ready lock pass)).step remote s =
      match s.world.db.begin with
      | .error e => some (s, (stored lock e : Phase t.kind))
      | .ok session => some ({ s with writing := true },
          .writing lock session Summary.zero pass.records pass.deletion) := by
  change (if s.writing then none else _) = _
  rw [closed]
  rfl

theorem runAlone_ready (closed : s.writing = false) (pass : Pass t.kind) :
    (t.moveTo (.ready lock pass)).runAlone remote s =
      leave { s with world.db := (inSession (pass.act t.site) s.world.db).2 } t lock
        ((inSession (pass.act t.site) s.world.db).1.mapError fun e => .error (.storage e)) := by
  have stepEq : (t.moveTo (.ready lock pass)).step remote s = _ := step_ready closed pass
  cases begun : s.world.db.begin with
  | error e =>
    rw [begun] at stepEq
    rw [runAlone_of_step stepEq, inSession, begun]
    exact runAlone_ended _
  | ok session =>
    rw [begun] at stepEq
    have written : (t.moveTo (.writing lock session Summary.zero pass.records
        pass.deletion)).runAlone remote { s with writing := true } = _ := runAlone_pending rfl rfl
    rw [inSession_eq_finish _ begun]
    obtain ⟨world, writing, locks, listened⟩ := s
    cases closed
    exact (runAlone_of_step stepEq).trans written

theorem runAlone_fetching {q : ListQuery} {mode : ReconcileMode}
    (work : t.work = .synchronize q mode) {fuel : Nat} {w : Walk (RecordOf t.kind)}
    (enough : w.left < fuel) :
    (t.moveTo (.fetching lock w)).runAlone remote s =
      match (walk remote t.kind t.site q (limitError t.kind t.site t.paging) fuel w).run
        s.world.remote with
      | (.error f, next) => leave { s with world.remote := next } t lock (.error f)
      | (.ok records, next) =>
        (t.moveTo (.ready lock (.ofPlan (Plan.build t.site records mode)))).runAlone remote
          { s with world.remote := next } := by
  induction fuel generalizing s w with
  | zero => omega
  | succ fuel ih =>
    obtain ⟨s', p', stepped⟩ : ∃ s' p', (t.moveTo (.fetching lock w)).step remote s =
        some (s', p') := by
      obtain ⟨kind, site, _, paging, phase⟩ := t
      cases work
      exact ⟨_, _, rfl⟩
    obtain ⟨seen, taken⟩ : ∃ seen, Taken remote t.kind t.site t.work t.paging s (.fetching lock w)
        seen s' p' := ⟨_, taken_of_step stepped⟩
    rw [walk_succ, runAlone_of_step stepped]
    cases taken with
    | inside inside =>
      cases inside with
      | overrun _ noneLeft =>
        rw [if_pos noneLeft]
        exact runAlone_ended _
      | listed same some_left asked =>
        cases work.symm.trans same
        rw [if_neg some_left, asked]
        dsimp only
        cases took : w.take _ with
        | more w' =>
          have fewer := left_of_take took
          exact ih (by omega)
        | done result =>
          cases result with
          | error f => exact runAlone_ended _
          | ok records => rfl
      | cleared reset => cases work.symm.trans reset
      | worked _ _ pending => cases pending
      | closed _ pending => cases pending

section

variable {k : ResourceKind} {site : SiteId} {q : ListQuery} {mode : ReconcileMode} {paging : Paging}

def holding (s : Shared σ) (k : ResourceKind) (site : SiteId) : Shared σ :=
  s.modifyLocks k fun _ => (s.locks k).take site

theorem step_waiting : (t.moveTo (.waiting lock)).step remote s =
    ((s.locks t.kind).acquire? lock).map fun locks =>
      (s.modifyLocks t.kind fun _ => locks, t.begun lock) := rfl

theorem runAlone_idle (t : Task) (free : (s.locks t.kind).Free t.site) :
    (t.moveTo .idle).runAlone remote s =
      (t.moveTo (t.begun ((s.locks t.kind).enter t.site).1)).runAlone remote
        (holding s t.kind t.site) := by
  have entered : (t.moveTo .idle).runAlone remote s =
      (t.moveTo (.waiting ((s.locks t.kind).enter t.site).1)).runAlone remote
        (s.modifyLocks t.kind fun _ => ((s.locks t.kind).enter t.site).2) := runAlone_of_step rfl
  have acquired := SiteLocks.acquire?_free _ _ (SiteLocks.enter_free _ _ free)
  rw [entered]
  apply runAlone_of_step
  rw [step_waiting, Shared.modifyLocks_locks, acquired, Option.map_some,
    Shared.modifyLocks_modifyLocks]
  rfl

-- A synchronization that runs alone is one whole synchronization between taking the lock of its
-- site and letting go of it.
theorem runAlone_synchronize (closed : s.writing = false) (free : (s.locks k).Free site) :
    (⟨k, site, .synchronize q mode, paging, .idle⟩ : Task).runAlone remote s =
      leave { holding s k site with world :=
          ((fetchAndApply remote k paging site q mode).run s.world).2 }
        ⟨k, site, .synchronize q mode, paging, .idle⟩ ((s.locks k).enter site).1
        ((fetchAndApply remote k paging site q mode).run s.world).1 := by
  let t : Task := ⟨k, site, .synchronize q mode, paging, .idle⟩
  let lock := ((s.locks k).enter site).1
  have started : t.runAlone remote s =
      (t.moveTo (.fetching lock (.start paging))).runAlone remote (holding s k site) :=
    runAlone_idle t free
  have walked :
      (t.moveTo (.fetching lock (.start paging))).runAlone remote (holding s k site) = _ :=
    runAlone_fetching rfl (Nat.lt_succ_self _)
  rw [started, walked, fetchAndApply_run]
  cases fetched : (fetchAll remote k paging site q).run s.world.remote with
  | mk result next =>
    have walk_result : (walk remote t.kind t.site q (limitError t.kind t.site t.paging)
        ((Walk.start paging : Walk (RecordOf k)).left + 1) (.start paging)).run
        (holding s k site).world.remote = (result, next) := fetched
    rw [walk_result]
    cases result with
    | error f => rfl
    | ok records =>
      let s' : Shared σ := { holding s k site with world.remote := next }
      have stored : (t.moveTo (.ready lock (.ofPlan (Plan.build site records mode)))).runAlone
          remote s' = _ := runAlone_ready (show s'.writing = false from closed) _
      have act : (Pass.ofPlan (Plan.build site records mode)).act t.site =
          Session.apply (Plan.build site records mode) := act_ofPlan (Plan.build site records mode)
      rw [act] at stored
      exact stored

theorem runAlone_reset (closed : s.writing = false) (free : (s.locks k).Free site) :
    (⟨k, site, .reset, paging, .idle⟩ : Task).runAlone remote s =
      leave { holding s k site with world.db :=
          (inSession ((Pass.clear : Pass k).act site) s.world.db).2 }
        ⟨k, site, .reset, paging, .idle⟩ ((s.locks k).enter site).1
        ((inSession ((Pass.clear : Pass k).act site) s.world.db).1.mapError
          fun e => .error (.storage e)) := by
  let t : Task := ⟨k, site, .reset, paging, .idle⟩
  let lock := ((s.locks k).enter site).1
  have started : t.runAlone remote s =
      (t.moveTo (.ready lock .clear)).runAlone remote (holding s k site) := runAlone_idle t free
  have cleared : (t.moveTo (.ready lock .clear)).runAlone remote (holding s k site) = _ :=
    runAlone_ready (show (holding s k site).writing = false from closed) _
  exact started.trans cleared

@[simp] theorem tell_writing (s : Shared σ) (t : Task) (result : Outcome Summary) :
    (s.tell t result).writing = s.writing := by
  unfold Shared.tell
  split <;> try split
  all_goals rfl

@[simp] theorem tell_locks (s : Shared σ) (t : Task) (result : Outcome Summary) :
    (s.tell t result).locks = s.locks := by
  unfold Shared.tell
  split <;> try split
  all_goals rfl

@[simp] theorem tell_db (s : Shared σ) (t : Task) (result : Outcome Summary) :
    (s.tell t result).world.db = s.world.db := by
  unfold Shared.tell
  split <;> try split
  all_goals rfl

@[simp] theorem left_writing (result : Outcome Summary) :
    (left s t lock result).writing = s.writing :=
  tell_writing s t result

@[simp] theorem left_db (result : Outcome Summary) :
    (left s t lock result).world.db = s.world.db :=
  tell_db s t result

theorem left_events (phase : Phase k) (result : Outcome Summary) :
    (left s ⟨k, site, .synchronize q mode, paging, phase⟩ lock result).world.events =
      s.world.events ++ if s.listened then (Event.ofOutcome? k site result).toList else [] := by
  change (s.tell ⟨k, site, .synchronize q mode, paging, phase⟩ result).world.events = _
  simp only [Shared.tell]
  split
  · rfl
  · simp

theorem left_locks (result : Outcome Summary) :
    (left s t lock result).locks = fun j =>
      if j = t.kind then (s.locks j).leave t.site lock else s.locks j := by
  simp [left, Shared.modifyLocks]

theorem left_holding_locks (s : Shared σ) (w : World σ) (work : Work) (phase : Phase k)
    (result : Outcome Summary) :
    (left { holding s k site with world := w } ⟨k, site, work, paging, phase⟩
      ((s.locks k).enter site).1 result).locks = fun j =>
        if j = k then (s.locks j).visited site else s.locks j := by
  rw [left_locks]
  funext j
  by_cases same : j = k
  · subst same
    simp [holding, Shared.modifyLocks, SiteLocks.visited]
  · simp [holding, Shared.modifyLocks, same]

end

end Task

end SiteCache.Sync
