import SiteCache.Proofs.Sync.Dispatching

set_option autoImplicit false

namespace SiteCache.Sync

open Remote (Service)

/-- A piece of work goes on, or dies in the middle of it; what all of them share changes in some
way, as when a dead piece of work lets go of its lock; or the runner takes a job. -/
inductive Advance (σ : Type) where
  | work (i : Nat)
  | die (i : Nat) (text : String)
  | change (f : Shared σ → Shared σ)
  | next

def told? : Outcome Summary → Option SyncResult
  | .ok summary => some (.ok summary)
  | .error (.error e) => some (.error e)
  | .error (.crash _) => none

theorem Spawned.job?_eq {C : Type} (w : Spawned C) :
    w.job? = (w.task.result?.bind told?).map fun r => ⟨w.completion, r⟩ := by
  unfold Spawned.job?
  cases w.task.result? with
  | none => rfl
  | some result =>
    cases result with
    | ok summary => rfl
    | error f => cases f <;> rfl

structure Watch (σ C : Type) where
  stores : Stores σ C
  given : List (Nat × Job C)

namespace Watch

variable {σ C : Type} {remote : Service σ} {d : Watch σ C} {i : Nat} {w : Spawned C}

-- What cannot happen changes nothing. What has delivered cannot die any more.
def advance (remote : Service σ) (d : Watch σ C) : Advance σ → Watch σ C
  | .work i =>
    match d.stores.step remote i with
    | none => d
    | some stores => ⟨stores, d.given ++ (d.stores.delivery? i).toList.map (i, ·)⟩
  | .die i text =>
    match d.stores.spawned[i]? with
    | none => d
    | some w =>
      if w.pending then
        let dead := { w with task := w.task.moveTo (.finished (crash text)) }
        { d with stores.spawned := d.stores.spawned.set i dead }
      else d
  | .change f => { d with stores.shared := f d.stores.shared }
  | .next => { d with stores.queue := d.stores.queue.runNext.2 }

def after (remote : Service σ) (d : Watch σ C) (advances : List (Advance σ)) : Watch σ C :=
  advances.foldl (advance remote) d

theorem after_cons (a : Advance σ) (advances : List (Advance σ)) :
    d.after remote (a :: advances) = (d.advance remote a).after remote advances := rfl

theorem after_append (advances later : List (Advance σ)) :
    d.after remote (advances ++ later) = (d.after remote advances).after remote later :=
  List.foldl_append

theorem advance_of_step {shared : Shared σ} {p : Phase w.task.kind}
    (found : d.stores.spawned[i]? = some w)
    (taken : w.task.step remote d.stores.shared = some (shared, p)) :
    d.advance remote (.work i) = { d with
      stores.shared := shared
      stores.spawned := d.stores.spawned.set i { w with task := w.task.moveTo p } } := by
  have stepped : d.stores.step remote i = some { d.stores with
      shared := shared
      spawned := d.stores.spawned.set i { w with task := w.task.moveTo p } } := by
    simp [Stores.step, found, taken]
  have quiet : d.stores.delivery? i = none := by
    simp [Stores.delivery?, found, Spawned.job?, Task.result_of_step taken]
  simp [advance, stepped, quiet]

theorem advance_of_result {result : Outcome Summary} (found : d.stores.spawned[i]? = some w)
    (stuck : w.task.step remote d.stores.shared = none) (ended : w.task.result? = some result)
    (pending : w.pending = true) :
    d.advance remote (.work i) = ⟨{ d.stores with
      queue := Stores.conclude d.stores.queue w result
      spawned := d.stores.spawned.set i { w with pending := false } },
        d.given ++ w.job?.toList.map (i, ·)⟩ := by
  have stepped : d.stores.step remote i = some { d.stores with
      queue := Stores.conclude d.stores.queue w result
      spawned := d.stores.spawned.set i { w with pending := false } } := by
    simp [Stores.step, found, stuck, ended, pending]
  have delivers : d.stores.delivery? i = w.job? := by simp [Stores.delivery?, found, pending]
  simp [advance, stepped, delivers]

/-- What holds of pieces of work for these calls, and of the queue that they deliver to. -/
structure Kept (calls : List (C × Call)) (d : Watch σ C) : Prop where
  accepted : d.stores.spawned.map (fun w => (w.completion, w.task.call)) = calls
  handles : d.stores.queue.handles = d.stores.spawned.countP (·.pending)
  tallied : Tallied d.stores.spawned d.given
  present : d.stores.queue.hasRunner = true
  ordered : d.stores.queue.ran ++ d.stores.queue.waiting = d.given.map Prod.snd
  counted : ∀ P : Job C → Bool, (d.given.map Prod.snd).countP P =
    d.stores.spawned.countP fun w => !w.pending && w.job?.any P

namespace Kept

variable {calls : List (C × Call)}

theorem opening {s : Stores σ C} (pending : ∀ w ∈ s.spawned, w.pending = true)
    (handles : s.queue.handles = s.spawned.length) (present : s.queue.hasRunner = true)
    (empty : s.queue.ran ++ s.queue.waiting = []) :
    Kept (s.spawned.map fun w => (w.completion, w.task.call)) ⟨s, []⟩ where
  accepted := rfl
  handles := handles.trans (List.countP_eq_length.mpr pending).symm
  tallied :=
    { given_iff := fun i job => by
        refine iff_of_false List.not_mem_nil ?_
        rintro ⟨w, found, settled, -⟩
        cases (pending w (List.mem_of_getElem? found)).symm.trans settled
      once := .nil
      done := fun w member settled => by cases (pending w member).symm.trans settled }
  present := present
  ordered := empty
  counted P := (List.countP_eq_zero.mpr fun w member => by simp [pending w member]).symm

theorem move (kept : Kept calls d) (found : d.stores.spawned[i]? = some w)
    (pending : w.pending = true) (shared : Shared σ) (p : Phase w.task.kind) :
    Kept calls { d with
      stores.shared := shared
      stores.spawned := d.stores.spawned.set i { w with task := w.task.moveTo p } } where
  accepted :=
    (map_set_same (b := { w with task := w.task.moveTo p }) found rfl).trans kept.accepted
  handles := by
    have same := countP_set_add (p := (·.pending)) found { w with task := w.task.moveTo p }
    have before := kept.handles
    dsimp only at same ⊢
    omega
  tallied := kept.tallied.move found pending pending
  present := kept.present
  ordered := kept.ordered
  counted P := by
    have same := countP_set_add (p := fun w => !w.pending && w.job?.any P) found
      { w with task := w.task.moveTo p }
    have before := kept.counted P
    simp only [pending, Bool.not_true, Bool.false_and, Bool.toNat_false] at same ⊢
    omega

theorem conclude {result : Outcome Summary} (kept : Kept calls d)
    (found : d.stores.spawned[i]? = some w) (ended : w.task.result? = some result)
    (pending : w.pending = true) :
    Kept calls ⟨{ d.stores with
      queue := Stores.conclude d.stores.queue w result
      spawned := d.stores.spawned.set i { w with pending := false } },
        d.given ++ w.job?.toList.map (i, ·)⟩ where
  accepted := (map_set_same (b := { w with pending := false }) found rfl).trans kept.accepted
  handles := by
    have fewer := countP_set_add (p := (·.pending)) found { w with pending := false }
    have before := kept.handles
    rw [Stores.handles_of_conclude]
    simp only [pending, Bool.toNat_true, Bool.toNat_false] at fewer ⊢
    omega
  tallied := kept.tallied.conclude found pending (by rw [ended]; rfl)
  present := by
    rw [Stores.conclude_eq _ ended]
    cases w.job? with
    | none => exact kept.present
    | some job => simp [CallbackQueue.dropHandles, CallbackQueue.deliver, kept.present]
  ordered := by
    rw [Stores.conclude_eq _ ended]
    cases w.job? with
    | none => simpa [CallbackQueue.dropHandles] using kept.ordered
    | some job =>
      simp [CallbackQueue.dropHandles, CallbackQueue.deliver, kept.present, ← kept.ordered]
  counted P := by
    have more := countP_set_add (p := fun w => !w.pending && w.job?.any P) found
      { w with pending := false }
    have before := kept.counted P
    have sameJob : Spawned.job? { w with pending := false } = w.job? := rfl
    have new : ((w.job?.toList.map (i, ·)).map Prod.snd).countP P = (w.job?.any P).toNat := by
      cases w.job? with
      | none => rfl
      | some job => cases holds : P job <;> simp [holds]
    rw [List.map_append, List.countP_append, new]
    simp only [pending, sameJob, Bool.not_true, Bool.not_false, Bool.false_and, Bool.true_and,
      Bool.toNat_false] at more ⊢
    omega

theorem advance (kept : Kept calls d) (a : Advance σ) : Kept calls (d.advance remote a) := by
  cases a with
  | work i =>
    cases stepped : d.stores.step remote i with
    | none => simpa [Watch.advance, stepped] using kept
    | some stores =>
      obtain ⟨w, found, ⟨shared, p, taken, -⟩ | ⟨result, stuck, ended, pending, -⟩⟩ :=
        Stores.step_cases stepped
      · have pending := kept.tallied.pending_of_unended found (Task.result_of_step taken)
        rw [advance_of_step found taken]
        exact kept.move found pending shared p
      · rw [advance_of_result found stuck ended pending]
        exact kept.conclude found ended pending
  | die i text =>
    rw [Watch.advance]
    split
    · exact kept
    · rename_i w found
      split <;> rename_i pending
      · exact kept.move found pending d.stores.shared (.finished (crash text))
      · exact kept
  | change f => exact { kept with }
  | next =>
    obtain ⟨ran, rest⟩ : d.stores.queue.runNext.2.ran ++ d.stores.queue.runNext.2.waiting =
          d.stores.queue.ran ++ d.stores.queue.waiting ∧
        d.stores.queue.runNext.2.handles = d.stores.queue.handles ∧
        d.stores.queue.runNext.2.hasRunner = d.stores.queue.hasRunner := by
      unfold CallbackQueue.runNext
      split <;> simp [*]
    exact { kept with
      handles := rest.1.trans kept.handles
      present := rest.2.trans kept.present
      ordered := ran.trans kept.ordered }

theorem after (kept : Kept calls d) (advances : List (Advance σ)) :
    Kept calls (d.after remote advances) := by
  induction advances generalizing d with
  | nil => exact kept
  | cons a rest ih => exact ih (kept.advance a)

theorem released_iff (kept : Kept calls d) :
    d.stores.queue.handles = 0 ↔ ∀ w ∈ d.stores.spawned, w.pending = false := by
  rw [kept.handles, List.countP_eq_zero]
  simp

-- The runner stops once every piece of work has come to its end and all that was delivered has run.
theorem stops_iff (kept : Kept calls d) : d.stores.queue.runNext.1 = some false ↔
    (∀ w ∈ d.stores.spawned, w.pending = false) ∧
      d.stores.queue.ran = d.given.map Prod.snd := by
  rw [← kept.released_iff, ← kept.ordered]
  unfold CallbackQueue.runNext
  split <;> rename_i waiting <;> simp [waiting]

theorem exists_ends (kept : Kept calls d) (released : d.stores.queue.handles = 0) :
    ∃ ends : List (Outcome Summary), d.stores.spawned.map (·.task.result?) = ends.map some := by
  refine ⟨d.stores.spawned.map fun w => w.task.result?.getD (crash ""), ?_⟩
  rw [List.map_map]
  refine List.map_congr_left fun w member => ?_
  have ended := kept.tallied.done w member (kept.released_iff.mp released w member)
  obtain ⟨result, ended⟩ := Option.isSome_iff_exists.mp ended
  simp [ended]

section

variable {ends : List (Outcome Summary)} (kept : Kept calls d)
  (released : d.stores.queue.handles = 0)
  (ended : d.stores.spawned.map (·.task.result?) = ends.map some)

include kept released ended

theorem given_iff (i : Nat) (r : SyncResult) :
    (i, r) ∈ d.given.map (fun g => (g.1, g.2.result)) ↔
      ends[i]? = some (r.mapError .error) := by
  have here := congrArg (·[i]?) ended
  simp only [List.getElem?_map] at here
  rw [List.mem_map]
  constructor
  · rintro ⟨⟨i, job⟩, delivered, same⟩
    cases same
    obtain ⟨w, found, -, told⟩ := (kept.tallied.given_iff i job).mp delivered
    rw [found, Option.map_some, ((w.job?_iff job).mp told).2] at here
    simpa [Job.outcome] using here.symm
  · intro told
    rw [told, Option.map_some, Option.map_eq_some_iff] at here
    obtain ⟨w, found, result⟩ := here
    have settled := kept.released_iff.mp released w (List.mem_of_getElem? found)
    exact ⟨(i, ⟨w.completion, r⟩), (kept.tallied.given_iff i _).mpr
      ⟨w, found, settled, (w.job?_iff _).mpr ⟨rfl, result⟩⟩, rfl⟩

theorem countP_given (P : SyncResult → Bool) :
    d.given.countP (fun g => P g.2.result) = ends.countP fun e => (told? e).any P := by
  have counted := kept.counted fun job => P job.result
  rw [List.countP_map] at counted
  calc d.given.countP (fun g => P g.2.result)
    _ = d.stores.spawned.countP (fun w => !w.pending && w.job?.any fun job => P job.result) :=
      counted
    _ = d.stores.spawned.countP (fun w => (w.task.result?.bind told?).any P) := by
      refine List.countP_congr fun w member => ?_
      rw [kept.released_iff.mp released w member, w.job?_eq, Option.any_map]
      rfl
    _ = (d.stores.spawned.map (·.task.result?)).countP (fun r => (r.bind told?).any P) := by
      rw [List.countP_map]
      rfl
    _ = ends.countP fun e => (told? e).any P := by
      rw [ended, List.countP_map]
      rfl

end

end Kept

end Watch

structure Shared.Rested {σ : Type} (s : Shared σ) : Prop where
  closed : s.writing = false
  unheld : ∀ k lock, ((s.locks k).state lock).held = false

theorem Shared.Rested.left {σ : Type} {s : Shared σ} (rested : s.Rested) {k : ResourceKind}
    {site : SiteId} (world : World σ) (work : Work) (paging : Paging) (phase : Phase k)
    (result : Outcome Summary) :
    (Task.left { Task.holding s k site with world := world } ⟨k, site, work, paging, phase⟩
      ((s.locks k).enter site).1 result).Rested where
  closed := by
    rw [Task.left_writing]
    exact rested.closed
  unheld j lock := by
    rw [Task.left_holding_locks]
    dsimp only
    split
    · by_contra held
      have before := (SiteLocks.visited_held _ _ lock (by simpa using held)).2
      rw [rested.unheld] at before
      cases before
    · exact rested.unheld j lock

theorem Stores.rested_runAlone {σ C : Type} {remote : Service σ} {shared : Shared σ}
    (rested : shared.Rested) (s : Stores σ C) (a : Action) :
    ((s.taskOf a).runAlone remote shared).1.Rested := by
  have free : (shared.locks a.kind).Free a.site := fun lock _ => rested.unheld a.kind lock
  cases a with
  | resetStoredProducts site =>
    have alone : (s.taskOf (.resetStoredProducts site)).runAlone remote shared = _ :=
      Task.runAlone_reset rested.closed free
    rw [alone]
    exact rested.left _ .reset _ _ _
  | synchronizeSitePlugins site | synchronizeProducts site filter order
  | synchronizeCoupons site =>
    have alone : (s.taskOf _).runAlone remote shared = _ :=
      Task.runAlone_synchronize rested.closed free
    rw [alone]
    exact rested.left _ _ _ _ _

namespace Watch

variable {σ C : Type}

theorem exists_runAlone (remote : Service σ) (d : Watch σ C) {i : Nat} {w : Spawned C}
    (found : d.stores.spawned[i]? = some w) :
    ∃ advances, d.after remote advances = { d with
      stores.shared := (w.task.runAlone remote d.stores.shared).1
      stores.spawned := d.stores.spawned.set i
        { w with task := (w.task.runAlone remote d.stores.shared).2 } } := by
  obtain ⟨inside, here⟩ := List.getElem?_eq_some_iff.mp found
  cases taken : w.task.step remote d.stores.shared with
  | none =>
    refine ⟨[], ?_⟩
    have same : d.stores.spawned.set i w = d.stores.spawned := by
      rw [← here, List.set_getElem_self]
    rw [Task.runAlone_of_stuck taken, same]
    rfl
  | some next =>
    obtain ⟨shared, p⟩ := next
    have decreases := Task.measure_of_step taken
    have alone : w.task.runAlone remote d.stores.shared =
        (w.task.moveTo p).runAlone remote shared :=
      Task.runAlone_of_step (p := w.task.phase) taken
    obtain ⟨advances, reached⟩ := exists_runAlone remote { d with
      stores.shared := shared
      stores.spawned := d.stores.spawned.set i { w with task := w.task.moveTo p } }
      (List.getElem?_set_self inside)
    refine ⟨.work i :: advances, ?_⟩
    rw [after_cons, advance_of_step found taken, alone]
    simpa using reached
termination_by w.task.phase.measure
decreasing_by exact decreases

theorem exists_complete (remote : Service σ) (d : Watch σ C) {ahead rest : List (Spawned C)}
    {w : Spawned C} {result : Outcome Summary} (spawned : d.stores.spawned = ahead ++ w :: rest)
    (pending : w.pending = true)
    (ended : (w.task.runAlone remote d.stores.shared).2.result? = some result) :
    ∃ advances w' given, w'.pending = false ∧ d.after remote advances = ⟨{ d.stores with
      shared := (w.task.runAlone remote d.stores.shared).1
      queue := Stores.conclude d.stores.queue w result
      spawned := ahead ++ w' :: rest }, given⟩ := by
  have found : d.stores.spawned[ahead.length]? = some w := by simp [spawned]
  obtain ⟨alone, ran⟩ := d.exists_runAlone remote found
  let task := (w.task.runAlone remote d.stores.shared).2
  have found' : (d.after remote alone).stores.spawned[ahead.length]? =
      some { w with task := task } := by
    rw [ran]
    exact List.getElem?_set_self (List.getElem?_eq_some_iff.mp found).1
  have stuck : task.step remote (d.after remote alone).stores.shared = none := by
    unfold Task.result? at ended
    split at ended <;> rename_i phase
    · rw [Task.step, phase]
    · cases ended
  refine ⟨alone ++ [.work ahead.length], { w with task := task, pending := false },
    d.given ++ (Spawned.job? { w with task := task }).toList.map (ahead.length, ·), rfl, ?_⟩
  rw [after_append, after_cons, advance_of_result found' stuck ended pending, ran]
  simp [spawned, after, Stores.conclude]

theorem completeNext_eq {remote : Service σ} {s : Stores σ C} {w : Spawned C}
    {rest : List (Spawned C)} {result : Outcome Summary}
    (ended : (w.task.runAlone remote s.shared).2.result? = some result) :
    Stores.completeNext remote { s with spawned := w :: rest } = { s with
      shared := (w.task.runAlone remote s.shared).1
      queue := Stores.conclude s.queue w result
      spawned := rest } := by
  simp [Stores.completeNext, Stores.complete, ended]

theorem exists_settle (remote : Service σ) (d : Watch σ C) (ahead rest : List (Spawned C))
    (spawned : d.stores.spawned = ahead ++ rest) (settled : ∀ w ∈ ahead, w.pending = false)
    (fresh : ∀ w ∈ rest, w.pending = true ∧ ∃ (s : Stores σ C) (a : Action), w.task = s.taskOf a)
    (rested : d.stores.shared.Rested) :
    ∃ advances,
      (d.after remote advances).stores.queue =
        (Stores.settle remote { d.stores with spawned := rest }).queue ∧
      ∀ w ∈ (d.after remote advances).stores.spawned, w.pending = false := by
  unfold Stores.settle
  dsimp only
  induction rest generalizing d ahead with
  | nil =>
    refine ⟨[], rfl, ?_⟩
    rw [after, List.foldl_nil, spawned, List.append_nil]
    exact settled
  | cons w rest ih =>
    obtain ⟨pending, s, a, task⟩ := fresh w List.mem_cons_self
    have free : (d.stores.shared.locks a.kind).Free a.site := fun lock _ => rested.unheld _ lock
    have ended : (w.task.runAlone remote d.stores.shared).2.result? = some _ :=
      task ▸ Stores.runAlone_taskOf rested.closed free
    have rests : (w.task.runAlone remote d.stores.shared).1.Rested :=
      task ▸ Stores.rested_runAlone rested s a
    obtain ⟨first, w', given, done, reached⟩ := d.exists_complete remote spawned pending ended
    have settled' : ∀ u ∈ ahead ++ [w'], u.pending = false := by
      simpa [or_imp, forall_and] using ⟨settled, done⟩
    obtain ⟨later, queue, all⟩ := ih (d.after remote first) (ahead ++ [w']) (by simp [reached])
      settled' (fun u member => fresh u (List.mem_cons_of_mem _ member))
      (by rw [reached]; exact rests)
    refine ⟨first ++ later, ?_, ?_⟩
    · rw [after_append, queue, List.foldl_cons, completeNext_eq ended, reached]
    · rw [after_append]
      exact all

end Watch

end SiteCache.Sync
