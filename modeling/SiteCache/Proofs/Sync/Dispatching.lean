import SiteCache.Proofs.Sync.Alone
import SiteCache.Proofs.Sync.Delivery
import SiteCache.Proofs.Sync.Replaying
import SiteCache.Proofs.Sync.Unblocking
import SiteCache.Sync.Dispatcher

set_option autoImplicit false

namespace SiteCache.Sync

open Remote (Service Reply)
open Store

def operation {σ : Type} (remote : Service σ) (paging : Paging) :
    Action → StateM (World σ) (Outcome Summary)
  | .synchronizeSitePlugins site => synchronize remote .sitePlugin .unpaged site .unpaged .replace
  | .synchronizeProducts site filter order =>
    synchronize remote .product paging site (productQuery filter order) (productMode filter)
  | .resetStoredProducts site => reset .product site
  | .synchronizeCoupons site => synchronize remote .coupon paging site .unpaged .replace

def allStores : Dispatcher ResourceKind :=
  (Dispatcher.empty.registerAll (ResourceKind.all.map fun k => (k, k))).2

def Job.outcome {C : Type} (job : Job C) : Outcome Summary := job.result.mapError .error

-- What is delivered at the end of a piece of work.
def Spawned.job? {C : Type} (w : Spawned C) : Option (Job C) :=
  match w.task.result? with
  | some (.ok summary) => some ⟨w.completion, .ok summary⟩
  | some (.error (.error e)) => some ⟨w.completion, .error e⟩
  | _ => none

theorem Task.result_of_step {σ : Type} {remote : Service σ} {s : Shared σ} {t : Task}
    {next : Shared σ × Phase t.kind} (taken : t.step remote s = some next) : t.result? = none := by
  obtain ⟨kind, site, work, paging, p⟩ := t
  cases p <;> first | rfl | cases taken

theorem Spawned.crash_of_jobless {C : Type} {w : Spawned C} {result : Outcome Summary}
    (ended : w.task.result? = some result) (jobless : w.job? = none) :
    ∃ text, result = crash text := by
  unfold Spawned.job? at jobless
  rw [ended] at jobless
  cases result with
  | ok summary => cases jobless
  | error f =>
    cases f with
    | error e => cases jobless
    | crash text => exact ⟨text, rfl⟩

theorem Spawned.job?_iff {C : Type} (w : Spawned C) (job : Job C) :
    w.job? = some job ↔ job.completion = w.completion ∧ w.task.result? = some job.outcome := by
  obtain ⟨completion, result⟩ := job
  unfold Spawned.job? Job.outcome
  cases ended : w.task.result? with
  | none => simp
  | some outcome =>
    cases outcome with
    | ok summary => cases result <;> simp [Except.mapError, eq_comm]
    | error f => cases f <;> cases result <;> simp [Except.mapError, eq_comm]

namespace Stores

variable {σ C : Type} {remote : Service σ} {s : Stores σ C} {i : Nat}

def callOf (s : Stores σ C) (a : Action) : Call := ⟨⟨a.kind, a.site, workOf a⟩, s.pagingOf a.kind⟩

theorem callOf_act {τ : Type} (s : Stores σ C) (a : Action) (other : Service τ) :
    (s.callOf a).act other = operation other s.paging a := by
  cases a <;> rfl

def dispatch (s : Stores σ C) (a : Action) (completion : C) : Outcome (Stores σ C) := do
  s.onAction (← allStores.route a) a completion

theorem runAlone_taskOf {a : Action} {shared : Shared σ} (closed : shared.writing = false)
    (free : (shared.locks a.kind).Free a.site) :
    ((s.taskOf a).runAlone remote shared).2.result? =
      some ((operation remote s.paging a).run shared.world).1 := by
  cases a with
  | resetStoredProducts site =>
    have alone : (s.taskOf (.resetStoredProducts site)).runAlone remote shared = _ :=
      Task.runAlone_reset closed free
    have cleared : (Pass.clear : Pass .product).act site =
        (fun n => { Summary.zero with deleted := n }) <$>
          Session.deleteAll (RecordOf .product) site := rfl
    have operated : (operation remote s.paging (.resetStoredProducts site)).run shared.world = _ :=
      reset_run .product site shared.world
    rw [alone, operated]
    change some ((inSession ((Pass.clear : Pass .product).act site) shared.world.db).1.mapError
      fun e => Failure.error (.storage e)) = _
    rw [cleared, inSession_map]
    cases (inSession (Session.deleteAll (RecordOf .product) site) shared.world.db).1 <;> rfl
  | synchronizeSitePlugins site =>
    exact congrArg (fun r => r.2.result?) (Task.runAlone_synchronize closed free)
  | synchronizeProducts site filter order =>
    exact congrArg (fun r => r.2.result?) (Task.runAlone_synchronize closed free)
  | synchronizeCoupons site =>
    exact congrArg (fun r => r.2.result?) (Task.runAlone_synchronize closed free)

theorem dispatch_eq (s : Stores σ C) (a : Action) (completion : C) :
    s.dispatch a completion = .ok (s.spawn a completion) := by
  have routed : allStores.route a = .ok a.kind := by cases a <;> rfl
  rw [dispatch, routed]
  exact if_pos rfl

def delivery? (s : Stores σ C) (i : Nat) : Option (Job C) :=
  s.spawned[i]?.bind fun w => if w.pending then w.job? else none

theorem conclude_eq (queue : CallbackQueue C) {w : Spawned C} {result : Outcome Summary}
    (ended : w.task.result? = some result) :
    conclude queue w result = (w.job?.elim queue queue.deliver).dropHandles 1 := by
  unfold conclude Spawned.job?
  rw [ended]
  cases result with
  | ok summary => rfl
  | error f => cases f <;> rfl

theorem handles_of_conclude (queue : CallbackQueue C) (w : Spawned C) (result : Outcome Summary) :
    (conclude queue w result).handles = queue.handles - 1 := by
  have same (job : Job C) : (queue.deliver job).handles = queue.handles := by
    unfold CallbackQueue.deliver
    split <;> rfl
  unfold conclude
  split <;> simp [CallbackQueue.dropHandles, same]

end Stores

inductive RunnerStep where
  | next
  | pending
  | run
  | drop

def RunnerStep.step {C : Type} : RunnerStep → CallbackQueue.Step C
  | .next => .runNext
  | .pending => .runPending
  | .run => .run
  | .drop => .dropRunner

theorem RunnerStep.handles {C : Type} {q q' : CallbackQueue C} {step : RunnerStep}
    (taken : q.step? step.step = some q') : q'.handles = q.handles := by
  obtain ⟨rfl, -⟩ := CallbackQueue.act_of_step? taken
  cases step with
  | next =>
    change q.runNext.2.handles = q.handles
    unfold CallbackQueue.runNext
    split <;> rfl
  | pending => rfl
  | run => rfl
  | drop => rfl

/-- What can happen: an action is dispatched, a piece of work goes on, the world changes, the
program takes or drops a handle of the queue, or does something with the runner. -/
inductive Happening (σ C : Type) where
  | dispatch (a : Action) (completion : C)
  | work (i : Nat)
  | world (change : World σ → World σ)
  | clone
  | drop
  | runner (step : RunnerStep)

structure Scene (σ C : Type) where
  stores : Stores σ C
  kept : Nat
  marks : List Mark
  given : List (Nat × Job C)
  lost : List (Job C)

namespace Scene

variable {σ C : Type}

def opening (paging : Paging) (world : World σ) (listened inline : Bool) : Scene σ C where
  stores := ⟨paging, ⟨world, false, fun _ => .empty, listened⟩,
    if inline then .immediate else .queued, []⟩
  kept := 1
  marks := []
  given := []
  lost := []

def db (s : Scene σ C) : Database := s.stores.shared.world.db

def step? (remote : Service σ) (s : Scene σ C) : Happening σ C → Option (Scene σ C)
  | .dispatch a completion =>
    if 0 < s.kept then
      (s.stores.dispatch a completion).toOption.map fun stores => { s with stores := stores }
    else none
  | .work i => (s.stores.step remote i).map fun stores =>
    { s with
      stores := stores
      marks := s.marks ++ s.stores.marks remote (.task i)
      given := s.given ++ (s.stores.delivery? i).toList.map (i, ·) }
  | .world change => some { s with stores.shared.world := change s.stores.shared.world }
  | .clone =>
    if 0 < s.kept then
      some { s with stores.queue := s.stores.queue.clone, kept := s.kept + 1 }
    else none
  | .drop =>
    if 0 < s.kept then
      some { s with stores.queue := s.stores.queue.dropHandles 1, kept := s.kept - 1 }
    else none
  | .runner step => (s.stores.queue.step? step.step).map fun queue =>
    { s with stores.queue := queue, lost := s.lost ++ s.stores.queue.lostAt step.step }

inductive Happens (remote : Service σ) (s : Scene σ C) : Happening σ C → Scene σ C → Prop
  | dispatch {a : Action} {completion : C} : 0 < s.kept →
    Happens remote s (.dispatch a completion) { s with stores := s.stores.spawn a completion }
  | work {i : Nat} {stores : Stores σ C} : s.stores.step remote i = some stores →
    Happens remote s (.work i)
      { s with
        stores := stores
        marks := s.marks ++ s.stores.marks remote (.task i)
        given := s.given ++ (s.stores.delivery? i).toList.map (i, ·) }
  | world {change : World σ → World σ} :
    Happens remote s (.world change)
      { s with stores.shared.world := change s.stores.shared.world }
  | clone : 0 < s.kept →
    Happens remote s .clone { s with stores.queue := s.stores.queue.clone, kept := s.kept + 1 }
  | drop : 0 < s.kept →
    Happens remote s .drop
      { s with stores.queue := s.stores.queue.dropHandles 1, kept := s.kept - 1 }
  | runner {step : RunnerStep} {queue : CallbackQueue C} :
    s.stores.queue.step? step.step = some queue →
    Happens remote s (.runner step)
      { s with stores.queue := queue, lost := s.lost ++ s.stores.queue.lostAt step.step }

theorem happens_of_step {remote : Service σ} {s s' : Scene σ C} {happening : Happening σ C}
    (taken : s.step? remote happening = some s') : Happens remote s happening s' := by
  cases happening with
  | dispatch a completion =>
    simp only [step?, Stores.dispatch_eq, Option.ite_none_right_eq_some] at taken
    obtain ⟨keeps, same⟩ := taken
    cases same
    exact .dispatch keeps
  | work i =>
    simp only [step?, Option.map_eq_some_iff] at taken
    obtain ⟨stores, stepped, rfl⟩ := taken
    exact .work stepped
  | world change =>
    cases taken
    exact .world
  | clone =>
    simp only [step?, Option.ite_none_right_eq_some, Option.some.injEq] at taken
    obtain ⟨keeps, rfl⟩ := taken
    exact .clone keeps
  | drop =>
    simp only [step?, Option.ite_none_right_eq_some, Option.some.injEq] at taken
    obtain ⟨keeps, rfl⟩ := taken
    exact .drop keeps
  | runner step =>
    simp only [step?, Option.map_eq_some_iff] at taken
    obtain ⟨queue, stepped, rfl⟩ := taken
    exact .runner stepped

def after? (remote : Service σ) (s : Scene σ C) (history : List (Happening σ C)) :
    Option (Scene σ C) :=
  history.foldlM (step? remote) s

end Scene

def Happening.sent {σ C : Type} : Happening σ C → List (Action × C)
  | .dispatch a completion => [(a, completion)]
  | _ => []

-- The actions that have been dispatched, in their order.
def dispatched {σ C : Type} (history : List (Happening σ C)) : List (Action × C) :=
  history.flatMap Happening.sent

/-- What has been delivered is the results of those pieces of work that have nothing left to do. -/
structure Tallied {C : Type} (spawned : List (Spawned C)) (given : List (Nat × Job C)) : Prop where
  given_iff : ∀ i job, (i, job) ∈ given ↔
    ∃ w, spawned[i]? = some w ∧ w.pending = false ∧ w.job? = some job
  once : (given.map Prod.fst).Nodup
  done : ∀ w ∈ spawned, w.pending = false → w.task.result?.isSome = true

theorem lookup_concat {α : Type} {xs : List α} {a b : α} {i : Nat} :
    (xs ++ [a])[i]? = some b ↔ xs[i]? = some b ∨ (i = xs.length ∧ a = b) := by
  rw [List.getElem?_append]
  split <;> rename_i inside
  · simp
    omega
  · simp [List.getElem?_singleton, List.getElem?_eq_none (Nat.le_of_not_lt inside)]
    omega

namespace Tallied

variable {C : Type} {spawned : List (Spawned C)} {given : List (Nat × Job C)} {i : Nat}
  {w w' : Spawned C}

theorem join (tallied : Tallied spawned given) (pending : w.pending = true) :
    Tallied (spawned ++ [w]) given where
  given_iff i job := by
    rw [tallied.given_iff]
    constructor
    · rintro ⟨u, found, settled⟩
      exact ⟨u, lookup_concat.mpr (.inl found), settled⟩
    · rintro ⟨u, found, settled, job⟩
      rcases lookup_concat.mp found with old | ⟨-, rfl⟩
      · exact ⟨u, old, settled, job⟩
      · cases pending.symm.trans settled
  once := tallied.once
  done u member settled := by
    rcases List.mem_append.mp member with old | new
    · exact tallied.done u old settled
    · rw [List.mem_singleton.mp new] at settled
      cases pending.symm.trans settled

theorem ungiven (tallied : Tallied spawned given) (found : spawned[i]? = some w)
    (pending : w.pending = true) (job : Job C) : (i, job) ∉ given := by
  intro delivered
  obtain ⟨u, found', settled, -⟩ := (tallied.given_iff i job).mp delivered
  cases found.symm.trans found'
  cases pending.symm.trans settled

theorem pending_of_unended (tallied : Tallied spawned given) (found : spawned[i]? = some w)
    (unended : w.task.result? = none) : w.pending = true := by
  by_contra settled
  have ended := tallied.done w (List.mem_of_getElem? found) (by simpa using settled)
  rw [unended] at ended
  cases ended

theorem move (tallied : Tallied spawned given) (found : spawned[i]? = some w)
    (pending : w.pending = true) (pending' : w'.pending = true) :
    Tallied (spawned.set i w') given where
  given_iff j job := by
    have inside := (List.getElem?_eq_some_iff.mp found).1
    by_cases same : i = j
    · subst same
      simp [tallied.ungiven found pending, List.getElem?_set_self inside, pending']
    · rw [List.getElem?_set_ne same]
      exact tallied.given_iff j job
  once := tallied.once
  done u member settled := by
    rcases List.mem_or_eq_of_mem_set member with old | rfl
    · exact tallied.done u old settled
    · cases pending'.symm.trans settled

theorem conclude (tallied : Tallied spawned given) (found : spawned[i]? = some w)
    (pending : w.pending = true) (ended : w.task.result?.isSome = true) :
    Tallied (spawned.set i { w with pending := false })
      (given ++ w.job?.toList.map (i, ·)) where
  given_iff j job := by
    have inside := (List.getElem?_eq_some_iff.mp found).1
    rw [List.mem_append]
    by_cases same : i = j
    · subst same
      have sameJob : Spawned.job? { w with pending := false } = w.job? := rfl
      simp [tallied.ungiven found pending, List.getElem?_set_self inside, sameJob]
    · rw [List.getElem?_set_ne same, tallied.given_iff]
      simp [same]
  once := by
    rw [List.map_append, List.nodup_append]
    refine ⟨tallied.once, ?_, ?_⟩
    · cases w.job? <;> simp
    · intro n member m member'
      obtain ⟨⟨_, job⟩, delivered, rfl⟩ := List.mem_map.mp member
      have here : m = i := by
        cases same : w.job? <;> simp [same] at member'
        exact member'
      rintro rfl
      exact tallied.ungiven found pending job (here ▸ delivered)
  done u member settled := by
    rcases List.mem_or_eq_of_mem_set member with old | rfl
    · exact tallied.done u old settled
    · exact ended

end Tallied

structure Served {σ C : Type} (remote : Service σ) (known : Database → Prop)
    (sent : List (Action × C)) (s : Scene σ C) : Prop where
  accepted : s.stores.spawned.map (fun w => (w.completion, w.task.call)) =
    sent.map fun (a, completion) => (completion, s.stores.callOf a)
  owned : Owned s.stores.tasks s.stores.shared
  course : ∀ (i : Nat) (t : Task), s.stores.tasks[i]? = some t →
    Course remote known t.kind t.site t.work t.paging (actsOf i s.marks) t.phase
  marked : ∀ m ∈ s.marks, m.task < s.stores.spawned.length
  handles : s.stores.queue.handles = s.kept + s.stores.spawned.countP (·.pending)
  tallied : Tallied s.stores.spawned s.given
  account : CallbackQueue.Account (s.given.map Prod.snd) s.lost s.stores.queue

namespace Served

variable {σ C : Type} {remote : Service σ} {known known' : Database → Prop}
  {sent : List (Action × C)} {s s' : Scene σ C} {i : Nat}

theorem opening (paging : Paging) (world : World σ) (listened inline : Bool) :
    Served remote known [] (Scene.opening paging world listened inline : Scene σ C) where
  accepted := rfl
  owned := .idle (by simp [Scene.opening, Stores.tasks]) (fun _ => rfl) rfl
  course i t found := by simp [Scene.opening, Stores.tasks] at found
  marked m member := by simp [Scene.opening] at member
  handles := by cases inline <;> rfl
  tallied := ⟨fun _ _ => by simp [Scene.opening], .nil, by simp [Scene.opening]⟩
  account := by
    cases inline
    · exact .queued
    · exact .immediate

theorem mono (served : Served remote known sent s) (more : ∀ db, known db → known' db) :
    Served remote known' sent s :=
  { served with course := fun i t found => (served.course i t found).mono more }

theorem dispatch (served : Served remote known sent s) (current : known s.db) (a : Action)
    (completion : C) :
    Served remote known (sent ++ [(a, completion)])
      { s with stores := s.stores.spawn a completion } where
  accepted := by
    simp only [Stores.spawn, List.map_append, List.map_cons, List.map_nil]
    rw [served.accepted]
    rfl
  owned := by
    simp only [Stores.tasks, Stores.spawn, List.map_append]
    exact served.owned.join rfl
  course i t found := by
    simp only [Stores.tasks, Stores.spawn, List.map_append, List.map_cons, List.map_nil] at found
    rcases lookup_concat.mp found with old | ⟨rfl, rfl⟩
    · exact served.course i t old
    · -- Nothing has been seen of the new task.
      have unseen : actsOf s.stores.spawned.length s.marks = [] := by
        simp only [actsOf, List.map_eq_nil_iff, List.filter_eq_nil_iff, decide_eq_true_eq]
        intro m member
        exact Nat.ne_of_lt (served.marked m member)
      rw [List.length_map, unseen]
      exact .idle current
  marked m member := by
    have before := served.marked m member
    simp only [Stores.spawn, List.length_append]
    omega
  handles := by
    have before := served.handles
    simp only [Stores.spawn, CallbackQueue.clone, List.countP_append, List.countP_singleton]
    simp
    omega
  tallied := served.tallied.join rfl
  account := ⟨served.account.ordered, served.account.noneLost, served.account.noneWaits⟩

theorem work_task (served : Served remote known sent s) (current : known s.db)
    {w : Spawned C} (found : s.stores.spawned[i]? = some w) {shared : Shared σ}
    {p : Phase w.task.kind} (taken : w.task.step remote s.stores.shared = some (shared, p)) :
    Served remote known sent
      { s with
        stores := { s.stores with
          shared := shared
          spawned := s.stores.spawned.set i { w with task := w.task.moveTo p } }
        marks := s.marks ++ s.stores.marks remote (.task i)
        given := s.given ++ (s.stores.delivery? i).toList.map (i, ·) } := by
  have looked := Stores.task_of_spawned found
  have unended : w.task.result? = none := Task.result_of_step taken
  have pending := served.tallied.pending_of_unended found unended
  have quiet : s.stores.delivery? i = none := by
    simp [Stores.delivery?, found, Spawned.job?, unended]
  have seen : s.stores.marks remote (.task i) =
      (w.task.act? remote s.stores.shared).toList.map (Mark.mk i) := by
    rw [Stores.marks, looked]
    rfl
  have moved : ({ s.stores with
      shared := shared
      spawned := s.stores.spawned.set i { w with task := w.task.moveTo p } } :
        Stores σ C).tasks = s.stores.tasks.set i (w.task.moveTo p) := by
    simp [Stores.tasks, List.map_set]
  have same : (s.stores.spawned.set i { w with task := w.task.moveTo p }).map
      (fun w => (w.completion, w.task.call)) = _ := map_set_same found rfl
  rw [quiet, seen, Option.toList_none, List.map_nil, List.append_nil]
  constructor
  · exact same.trans served.accepted
  · rw [moved]
    exact served.owned.step looked (taken_of_step taken)
  · intro j t looked'
    rw [moved] at looked'
    rcases lookup_set looked looked' with ⟨rfl, rfl⟩ | ⟨other, old⟩
    · rw [actsOf_self]
      exact (served.course j w.task looked).step current (taken_of_step taken)
    · rw [actsOf_other other]
      exact served.course j t old
  · intro m member
    rw [List.length_set]
    rcases List.mem_append.mp member with old | new
    · exact served.marked m old
    · obtain ⟨act, -, rfl⟩ := List.mem_map.mp new
      exact (List.getElem?_eq_some_iff.mp found).1
  · have same := countP_set_add (p := (·.pending)) found { w with task := w.task.moveTo p }
    have before := served.handles
    dsimp only at same ⊢
    omega
  · exact served.tallied.move found pending pending
  · exact served.account

theorem work_delivery (served : Served remote known sent s) {w : Spawned C}
    (found : s.stores.spawned[i]? = some w) {result : Outcome Summary}
    (stuck : w.task.step remote s.stores.shared = none) (ended : w.task.result? = some result)
    (pending : w.pending = true) :
    Served remote known sent
      { s with
        stores := { s.stores with
          queue := Stores.conclude s.stores.queue w result
          spawned := s.stores.spawned.set i { w with pending := false } }
        marks := s.marks ++ s.stores.marks remote (.task i)
        given := s.given ++ (s.stores.delivery? i).toList.map (i, ·) } := by
  have looked := Stores.task_of_spawned found
  have delivers : s.stores.delivery? i = w.job? := by
    simp [Stores.delivery?, found, pending]
  have unseen : s.stores.marks remote (.task i) = [] := by
    rw [Stores.marks, looked, Option.bind_some, Task.act?_of_stuck stuck]
    rfl
  have kept : ({ s.stores with
      queue := Stores.conclude s.stores.queue w result
      spawned := s.stores.spawned.set i { w with pending := false } } : Stores σ C).tasks =
        s.stores.tasks :=
    map_set_same found rfl
  have same : (s.stores.spawned.set i { w with pending := false }).map
      (fun w => (w.completion, w.task.call)) = _ := map_set_same found rfl
  rw [delivers, unseen, List.append_nil]
  constructor
  · exact same.trans served.accepted
  · rw [kept]
    exact served.owned
  · rw [kept]
    exact served.course
  · simpa using served.marked
  · have fewer := countP_set_add (p := (·.pending)) found { w with pending := false }
    have before := served.handles
    rw [Stores.handles_of_conclude]
    simp only [pending, Bool.toNat_true, Bool.toNat_false] at fewer ⊢
    omega
  · exact served.tallied.conclude found pending (by rw [ended]; rfl)
  · rw [Stores.conclude_eq _ ended]
    have account : CallbackQueue.Account
        ((s.given ++ w.job?.toList.map (i, ·)).map Prod.snd) s.lost
        (w.job?.elim s.stores.queue s.stores.queue.deliver) := by
      cases w.job? with
      | none => simpa using served.account
      | some job => simpa using served.account.deliver job
    exact ⟨account.ordered, account.noneLost, account.noneWaits⟩

theorem runner (served : Served remote known sent s) (step : RunnerStep)
    {queue : CallbackQueue C} (taken : s.stores.queue.step? step.step = some queue) :
    Served remote known sent
      { s with
        stores.queue := queue
        lost := s.lost ++ s.stores.queue.lostAt step.step } where
  accepted := served.accepted
  owned := served.owned
  course := served.course
  marked := served.marked
  handles := by
    have before := served.handles
    have same : queue.handles = s.stores.queue.handles := RunnerStep.handles taken
    dsimp only
    omega
  tallied := served.tallied
  account := by
    have account := served.account.step taken
    cases step <;> simpa [CallbackQueue.Step.delivered, RunnerStep.step] using account

theorem step (served : Served remote known sent s) (current : known s.db)
    {happening : Happening σ C} (taken : s.step? remote happening = some s') :
    Served remote known (sent ++ happening.sent) s' := by
  have before := served.handles
  cases Scene.happens_of_step taken with
  | @dispatch a completion => exact served.dispatch current a completion
  | work stepped =>
    simp only [Happening.sent, List.append_nil]
    obtain ⟨w, found, ⟨shared, p, moves, rfl⟩ | ⟨result, stuck, ended, pending, rfl⟩⟩ :=
      Stores.step_cases stepped
    · exact served.work_task current found moves
    · exact served.work_delivery found stuck ended pending
  | world =>
    simp only [Happening.sent, List.append_nil]
    exact { served with owned := ⟨served.owned.guarded, served.owned.writing⟩ }
  | clone keeps =>
    simp only [Happening.sent, List.append_nil]
    exact { served with
      handles := by simp only [CallbackQueue.clone]; omega
      account := ⟨served.account.ordered, served.account.noneLost, served.account.noneWaits⟩ }
  | drop keeps =>
    simp only [Happening.sent, List.append_nil]
    exact { served with
      handles := by simp only [CallbackQueue.dropHandles]; omega
      account := ⟨served.account.ordered, served.account.noneLost, served.account.noneWaits⟩ }
  | @runner step _ stepped =>
    simp only [Happening.sent, List.append_nil]
    exact served.runner step stepped

end Served

namespace Scene

variable {σ C : Type} {remote : Service σ} {start s s' : Scene σ C}
  {history : List (Happening σ C)} {happening : Happening σ C}

def Reached (remote : Service σ) (start : Scene σ C) (history : List (Happening σ C))
    (db : Database) : Prop :=
  ∃ earlier later u, history = earlier ++ later ∧ start.after? remote earlier = some u ∧ u.db = db

theorem served_after {paging : Paging} {world : World σ} {listened inline : Bool}
    (taken : (opening paging world listened inline).after? remote history = some s) :
    Served remote ((opening paging world listened inline).Reached remote history)
      (dispatched history) s := by
  -- From the end of the history, since what has been reached grows there.
  induction history using List.reverseRecOn generalizing s with
  | nil =>
    cases taken
    exact .opening paging world listened inline
  | append_singleton history happening ih =>
    rw [after?, List.foldlM_append, Option.bind_eq_bind, Option.bind_eq_some_iff] at taken
    obtain ⟨u, before, last⟩ := taken
    rw [List.foldlM_cons, Option.bind_eq_bind, Option.bind_eq_some_iff] at last
    obtain ⟨_, last, same⟩ := last
    cases same
    have longer : ∀ db, Reached remote (opening paging world listened inline) history db →
        Reached remote (opening paging world listened inline) (history ++ [happening]) db := by
      rintro db ⟨earlier, later, v, rfl, reached, same⟩
      exact ⟨earlier, later ++ [happening], v, List.append_assoc _ _ _, reached, same⟩
    have served := (ih before).mono longer
    have current : Reached remote (opening paging world listened inline)
        (history ++ [happening]) u.db := ⟨history, [happening], u, rfl, before, rfl⟩
    have next := served.step current last
    rw [dispatched, List.flatMap_append, List.flatMap_singleton]
    exact next

theorem ran_of_work {stores : Stores σ C} {i : Nat}
    (stepped : s.stores.step remote i = some stores) :
    stores.queue.ran = s.stores.queue.ran ++
      if s.stores.queue.hasRunner then [] else (s.stores.delivery? i).toList := by
  obtain ⟨w, found, ⟨shared, p, moves, rfl⟩ | ⟨result, stuck, ended, pending, rfl⟩⟩ :=
    Stores.step_cases stepped
  · have quiet : s.stores.delivery? i = none := by
      simp [Stores.delivery?, found, Spawned.job?, Task.result_of_step moves]
    simp [quiet]
  · have delivers : s.stores.delivery? i = w.job? := by simp [Stores.delivery?, found, pending]
    rw [delivers, Stores.conclude_eq _ ended]
    cases w.job? with
    | none => simp [CallbackQueue.dropHandles]
    | some job =>
      simp only [Option.elim_some, CallbackQueue.dropHandles, CallbackQueue.deliver]
      split <;> simp [CallbackQueue.runNow]

-- Only the owner of the runner can make it run completions, and as long as there is a runner,
-- nobody else runs any.
theorem ran_of_step (taken : s.step? remote happening = some s') :
    (∃ step, happening = .runner step ∧ step ≠ .drop ∧ s.stores.queue.hasRunner = true) ∨
      ∃ new, s'.given = s.given ++ new ∧ s'.stores.queue.ran = s.stores.queue.ran ++
        if s.stores.queue.hasRunner then [] else new.map Prod.snd := by
  cases happens_of_step taken with
  | dispatch => exact .inr ⟨[], by simp, by simp [Stores.spawn, CallbackQueue.clone]⟩
  | work stepped =>
    refine .inr ⟨_, rfl, ?_⟩
    rw [ran_of_work stepped]
    simp
  | world => exact .inr ⟨[], by simp, by simp⟩
  | clone => exact .inr ⟨[], by simp, by simp [CallbackQueue.clone]⟩
  | drop => exact .inr ⟨[], by simp, by simp [CallbackQueue.dropHandles]⟩
  | @runner step _ stepped =>
    cases step with
    | drop =>
      simp only [RunnerStep.step, CallbackQueue.step?, Option.ite_none_right_eq_some,
        Option.some.injEq] at stepped
      obtain ⟨-, rfl⟩ := stepped
      exact .inr ⟨[], by simp, by simp [CallbackQueue.dropRunner]⟩
    | next | pending | run =>
      simp only [RunnerStep.step, CallbackQueue.step?, Option.ite_none_right_eq_some] at stepped
      refine .inl ⟨_, rfl, ?_, stepped.1⟩
      intro same
      cases same

theorem lost_of_step (taken : s.step? remote happening = some s')
    (kept : happening ≠ .runner .drop) : s'.lost = s.lost := by
  cases happens_of_step taken with
  | @runner step =>
    cases step with
    | drop => exact absurd rfl kept
    | next | pending | run => exact List.append_nil _
  | _ => rfl

theorem paging_of_step (taken : s.step? remote happening = some s') :
    s'.stores.paging = s.stores.paging := by
  cases happens_of_step taken with
  | work stepped =>
    obtain ⟨_, _, ⟨_, _, _, rfl⟩ | ⟨_, _, _, _, rfl⟩⟩ := Stores.step_cases stepped <;> rfl
  | _ => rfl

theorem same_after {α : Type} {f : Scene σ C → α} (taken : start.after? remote history = some s)
    (same : ∀ u v, ∀ happening ∈ history, u.step? remote happening = some v → f v = f u) :
    f s = f start := by
  induction history generalizing start with
  | nil =>
    cases taken
    rfl
  | cons happening rest ih =>
    rw [after?, List.foldlM_cons, Option.bind_eq_bind, Option.bind_eq_some_iff] at taken
    obtain ⟨u, first, later⟩ := taken
    rw [ih later fun u v h member => same u v h (List.mem_cons_of_mem _ member),
      same start u happening List.mem_cons_self first]

end Scene

namespace Served

variable {σ C : Type} {remote : Service σ} {known : Database → Prop} {sent : List (Action × C)}
  {s : Scene σ C} {i : Nat} {w : Spawned C} {job : Job C}

theorem sent_of_spawned (served : Served remote known sent s)
    (found : s.stores.spawned[i]? = some w) :
    ∃ a completion, sent[i]? = some (a, completion) ∧ w.completion = completion ∧
      w.task.call = s.stores.callOf a := by
  have accepted := congrArg (·[i]?) served.accepted
  simp only [List.getElem?_map, found, Option.map_some] at accepted
  obtain ⟨⟨a, completion⟩, dispatched, same⟩ := Option.map_eq_some_iff.mp accepted.symm
  obtain ⟨completion_eq, call⟩ := Prod.mk.injEq .. ▸ same
  exact ⟨a, completion, dispatched, completion_eq.symm, call.symm⟩

theorem returned (served : Served remote known sent s) (found : s.stores.spawned[i]? = some w)
    {result : Outcome Summary} (ended : w.task.result? = some result) :
    Returned remote known w.task.kind w.task.site w.task.work w.task.paging (actsOf i s.marks)
      result :=
  (served.course i w.task (Stores.task_of_spawned found)).stage.of_ended (Task.phase_result ended)

section

variable (served : Served remote known sent s)

include served

theorem spawned_of_given (delivered : (i, job) ∈ s.given) :
    ∃ w, s.stores.spawned[i]? = some w ∧ job.completion = w.completion ∧
      w.task.result? = some job.outcome := by
  obtain ⟨w, found, -, job_eq⟩ := (served.tallied.given_iff i job).mp delivered
  exact ⟨w, found, (w.job?_iff job).mp job_eq⟩

theorem own (current : known s.db) (delivered : (i, job) ∈ s.given) :
    ∃ a completion db, sent[i]? = some (a, completion) ∧ job.completion = completion ∧ known db ∧
      ((operation Remote.Script.service s.stores.paging a).run
        ⟨replying a.kind a.site (heard a.kind (actsOf i s.marks)), db, []⟩).1 = job.outcome := by
  obtain ⟨w, found, completion_eq, ended⟩ := served.spawned_of_given delivered
  obtain ⟨a, completion, sent, same, call⟩ := served.sent_of_spawned found
  obtain ⟨db, reached, again⟩ := (served.returned found ended).again script_replays
    (replying_holds _ _ _) current
  refine ⟨a, completion, db, sent, completion_eq.trans same, reached, ?_⟩
  change ((w.task.call.act Remote.Script.service).run
    ⟨replying w.task.call.errand.kind w.task.call.errand.site
      (heard w.task.call.errand.kind (actsOf i s.marks)), db, []⟩).1 = _ at again
  rwa [call, Stores.callOf_act] at again

theorem ended_of_given (delivered : (i, job) ∈ s.given) :
    (∃ t, s.stores.tasks[i]? = some t ∧ t.result? = some job.outcome) ∧
      ∀ summary, job.result = .ok summary ↔ ⟨i, .closed (.ok summary)⟩ ∈ s.marks := by
  obtain ⟨w, found, -, ended⟩ := served.spawned_of_given delivered
  refine ⟨⟨w.task, Stores.task_of_spawned found, ended⟩, ?_⟩
  intro summary
  have committed := (served.returned found ended).committed summary
  rw [← mem_actsOf, ← committed, Job.outcome]
  cases job.result <;> simp [Except.mapError]

theorem ungiven_of_crash {t : Task} {text : String} (found : s.stores.tasks[i]? = some t)
    (crashed : t.result? = some (crash text)) (job : Job C) : (i, job) ∉ s.given := by
  intro delivered
  obtain ⟨w, found', -, ended⟩ := served.spawned_of_given delivered
  cases found.symm.trans (Stores.task_of_spawned found')
  rw [crashed, Job.outcome] at ended
  cases same : job.result <;> simp [same, crash, Except.mapError] at ended

theorem crash_seen {t : Task} {text : String} (found : s.stores.tasks[i]? = some t)
    (crashed : t.result? = some (crash text)) :
    .crashed text ∈ heard t.kind (actsOf i s.marks) ∨
      (heard t.kind (actsOf i s.marks)).length + 1 = UInt32.size := by
  rw [Stores.tasks, List.getElem?_map, Option.map_eq_some_iff] at found
  obtain ⟨w, found, rfl⟩ := found
  exact (served.returned found crashed).crashes

section

variable (stuck : ∀ i, s.stores.step remote i = none)

include stuck

theorem given_or_crashed (inside : i < sent.length) :
    (∃ job, (i, job) ∈ s.given) ∨
      ∃ t text, s.stores.tasks[i]? = some t ∧ t.result? = some (crash text) := by
  have lengths := congrArg List.length served.accepted
  simp only [List.length_map] at lengths
  obtain ⟨w, found⟩ : ∃ w, s.stores.spawned[i]? = some w :=
    ⟨_, List.getElem?_eq_getElem (by omega)⟩
  obtain ⟨ended, done⟩ :=
    Stores.settled_of_stuck served.owned stuck w (List.mem_of_getElem? found)
  obtain ⟨result, ended⟩ := Option.isSome_iff_exists.mp ended
  cases delivered : w.job? with
  | some job => exact .inl ⟨job, (served.tallied.given_iff i job).mpr ⟨w, found, done, delivered⟩⟩
  | none =>
    obtain ⟨text, rfl⟩ := Spawned.crash_of_jobless ended delivered
    exact .inr ⟨w.task, text, Stores.task_of_spawned found, ended⟩

theorem handles_released : s.stores.queue.handles = s.kept := by
  have settled := Stores.settled_of_stuck served.owned stuck
  have none : s.stores.spawned.countP (·.pending) = 0 :=
    List.countP_eq_zero.mpr fun w member => by simp [(settled w member).2]
  have handles := served.handles
  omega

end

end

end Served

/-- What becomes of the actions that have been dispatched, at any moment of a history. The actions,
their pieces of work and their tasks have the same numbers. -/
structure Delivers {σ C : Type} (remote : Service σ) (start : Scene σ C)
    (history : List (Happening σ C)) (s : Scene σ C) : Prop where
  accepted : s.stores.spawned.map (·.completion) = (dispatched history).map Prod.snd
  once : (s.given.map Prod.fst).Nodup
  own : ∀ i job, (i, job) ∈ s.given → ∃ a completion db,
    (dispatched history)[i]? = some (a, completion) ∧ job.completion = completion ∧
      start.Reached remote history db ∧
      ((operation Remote.Script.service start.stores.paging a).run
        ⟨replying a.kind a.site (heard a.kind (actsOf i s.marks)), db, []⟩).1 = job.outcome
  ended : ∀ i job, (i, job) ∈ s.given →
    (∃ t, s.stores.tasks[i]? = some t ∧ t.result? = some job.outcome) ∧
      ∀ summary, job.result = .ok summary ↔ ⟨i, .closed (.ok summary)⟩ ∈ s.marks
  all : (∀ i, s.stores.step remote i = none) → ∀ i < (dispatched history).length,
    (∃ job, (i, job) ∈ s.given) ∨
      ∃ t text, s.stores.tasks[i]? = some t ∧ t.result? = some (crash text)
  settles : ∃ schedule : List Nat, ∀ w ∈ (s.stores.run remote schedule).spawned,
    w.task.result?.isSome = true ∧ w.pending = false
  crashed : ∀ i t text, s.stores.tasks[i]? = some t → t.result? = some (crash text) →
    (∀ job, (i, job) ∉ s.given) ∧ (.crashed text ∈ heard t.kind (actsOf i s.marks) ∨
      (heard t.kind (actsOf i s.marks)).length + 1 = UInt32.size)
  handles : s.stores.queue.handles = s.kept + s.stores.spawned.countP (·.pending)
  released : (∀ i, s.stores.step remote i = none) → s.stores.queue.handles = s.kept
  account : CallbackQueue.Account (s.given.map Prod.snd) s.lost s.stores.queue
  unlost : .runner .drop ∉ history → s.lost = []
  runs : ∀ happening s', s.step? remote happening = some s' →
    (∃ step, happening = .runner step ∧ step ≠ .drop ∧ s.stores.queue.hasRunner = true) ∨
      ∃ new, s'.given = s.given ++ new ∧ s'.stores.queue.ran = s.stores.queue.ran ++
        if s.stores.queue.hasRunner then [] else new.map Prod.snd
  alone : ∀ (a : Action) (shared : Shared σ), shared.writing = false →
    (shared.locks a.kind).Free a.site →
    ((s.stores.taskOf a).runAlone remote shared).2.result? =
      some ((operation remote start.stores.paging a).run shared.world).1

theorem history_delivers {σ C : Type} {remote : Service σ} {paging : Paging} {world : World σ}
    {listened inline : Bool} {history : List (Happening σ C)} {s : Scene σ C}
    (taken : (Scene.opening paging world listened inline).after? remote history = some s) :
    Delivers remote (Scene.opening paging world listened inline) history s := by
  have served := Scene.served_after taken
  have current : (Scene.opening paging world listened inline).Reached remote history s.db :=
    ⟨history, [], s, (List.append_nil history).symm, taken, rfl⟩
  have samePaging : s.stores.paging = paging :=
    Scene.same_after (f := fun u => u.stores.paging) taken fun _ _ _ _ => Scene.paging_of_step
  constructor
  · have accepted := congrArg (List.map Prod.fst) served.accepted
    simpa [Function.comp_def] using accepted
  · exact served.tallied.once
  · intro i job delivered
    have own := served.own current delivered
    rwa [samePaging] at own
  · exact fun i job delivered => served.ended_of_given delivered
  · exact fun stuck i inside => served.given_or_crashed stuck inside
  · exact Stores.settles served.owned
  · exact fun i t text found crashed =>
      ⟨served.ungiven_of_crash found crashed, served.crash_seen found crashed⟩
  · exact served.handles
  · exact served.handles_released
  · exact served.account
  · intro kept
    have same : s.lost = [] := Scene.same_after (f := fun u => u.lost) taken
      fun u v happening member stepped => Scene.lost_of_step stepped fun drops =>
        kept (drops ▸ member)
    exact same
  · intro happening s' stepped
    exact Scene.ran_of_step stepped
  · intro a shared closed free
    rw [← samePaging]
    exact Stores.runAlone_taskOf closed free

def busyWorld : World Remote.Script :=
  { couponWorld with
    remote := couponWorld.remote.modify .sitePlugin (·.script ⟨7⟩ [.crashed "out of memory"]) }

-- The works end in the reverse of the order in which they were started.
def busyDay : List (Happening Remote.Script String) :=
  [.dispatch (.synchronizeCoupons ⟨7⟩) "coupons", .dispatch (.resetStoredProducts ⟨7⟩) "products",
    .dispatch (.synchronizeSitePlugins ⟨7⟩) "plugins"] ++
  List.replicate 5 (.work 0) ++ List.replicate 8 (.work 2) ++ List.replicate 11 (.work 1) ++
  [.runner .next] ++ List.replicate 12 (.work 0) ++ [.drop, .runner .run]

theorem busyDay_delivers : ∃ s,
    (Scene.opening (.paged 2 5) busyWorld true false).after? Remote.Script.service busyDay =
      some s ∧
    s.given.map Prod.fst = [1, 0] ∧
    s.stores.queue.ran.map (·.completion) = ["products", "coupons"] ∧
    s.stores.queue.handles = 0 ∧
    s.stores.tasks.map Task.result? =
      [some (.ok ⟨2, 1, 1⟩), some (.ok .zero), some (crash "out of memory")] ∧
    Delivers Remote.Script.service (Scene.opening (.paged 2 5) busyWorld true false) busyDay s :=
  ⟨_, rfl, rfl, rfl, rfl, rfl, history_delivers rfl⟩

end SiteCache.Sync
