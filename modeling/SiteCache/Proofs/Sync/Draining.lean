import Mathlib.Algebra.GroupWithZero.Nat
import SiteCache.Proofs.Sync.Delivery

set_option autoImplicit false

namespace SiteCache.Sync.CallbackQueue

variable {C : Type} {q q' : CallbackQueue C}

theorem runNext_nil (empty : q.waiting = []) :
    q.runNext = (if q.handles = 0 then some false else none, q) := by
  simp [runNext, empty]

theorem runNext_cons {job : Job C} {rest : List (Job C)} (waiting : q.waiting = job :: rest) :
    q.runNext = (some true, { q with waiting := rest, ran := q.ran ++ [job] }) := by
  simp [runNext, waiting]

theorem runPending_nil (empty : q.waiting = []) : q.runPending.2 = q := by
  obtain ⟨inline, hasRunner, handles, waiting, ran⟩ := q
  cases empty
  simp [runPending]

theorem length_of_runNext (took : q.runNext.1 = some true) :
    q.runNext.2.waiting.length < q.waiting.length := by
  cases waiting : q.waiting with
  | nil =>
    rw [runNext_nil waiting] at took
    split at took <;> cases took
  | cons job rest => simp [runNext_cons waiting]

def takeAll (q : CallbackQueue C) : Nat × Option Bool × CallbackQueue C :=
  if took : q.runNext.1 = some true then
    (q.runNext.2.takeAll.1 + 1, q.runNext.2.takeAll.2)
  else (0, q.runNext)
termination_by q.waiting.length
decreasing_by all_goals exact length_of_runNext took

theorem takeAll_eq (q : CallbackQueue C) :
    q.takeAll =
      (q.waiting.length, if q.handles = 0 then some false else none, q.runPending.2) := by
  induction waiting : q.waiting generalizing q with
  | nil =>
    have none : ¬ q.runNext.1 = some true := by
      rw [runNext_nil waiting]
      split <;> simp
    rw [takeAll, dif_neg none, runNext_nil waiting, runPending_nil waiting]
    rfl
  | cons job rest ih =>
    have took := runNext_cons waiting
    rw [takeAll, dif_pos (congrArg Prod.fst took), took, ih _ rfl]
    simp [runPending, waiting]

theorem after?_runNexts (present : q.hasRunner) :
    q.after? (.replicate q.waiting.length .runNext) = some q.runPending.2 := by
  induction waiting : q.waiting generalizing q with
  | nil => rw [runPending_nil waiting]; rfl
  | cons job rest ih =>
    have first : q.step? .runNext = some { q with waiting := rest, ran := q.ran ++ [job] } := by
      simp [step?, present, runNext_cons waiting]
    have later := ih (q := { q with waiting := rest, ran := q.ran ++ [job] }) present rfl
    rw [List.length_cons, List.replicate_succ, after?, List.foldlM_cons, first]
    simpa [after?, runPending, waiting] using later

namespace Step

@[simp] def keepsRunner : Step C → Bool
  | .run | .dropRunner => false
  | _ => true

@[simp] def cloned : Step C → Nat
  | .clone => 1
  | _ => 0

@[simp] def dropped : Step C → Nat
  | .dropHandles count => count
  | _ => 0

end Step

theorem step?_ends {s : Step C} (taken : q.step? s = some q') :
    q'.hasRunner = (q.hasRunner && s.keepsRunner) ∧
      q'.handles + s.dropped = q.handles + s.cloned := by
  obtain ⟨rfl, allowed⟩ := act_of_step? taken
  cases s with
  | deliver job =>
    rw [act, deliver]
    split <;> simp [runNow, *]
  | clone => simp [clone]
  | dropHandles count =>
    have enough : count ≤ q.handles := allowed
    simpa [dropHandles] using Nat.sub_add_cancel enough
  | runNext =>
    rw [act, runNext]
    split <;> simp
  | runPending => simp [runPending]
  | run => simp [runPending, dropRunner]
  | dropRunner => simp [dropRunner]

theorem after?_ends {steps : List (Step C)} (taken : q.after? steps = some q') :
    q'.hasRunner = (q.hasRunner && steps.all Step.keepsRunner) ∧
      q'.handles + (steps.map Step.dropped).sum = q.handles + (steps.map Step.cloned).sum := by
  induction steps generalizing q with
  | nil =>
    cases taken
    simp
  | cons s rest ih =>
    rw [after?, List.foldlM_cons, Option.bind_eq_bind, Option.bind_eq_some_iff] at taken
    obtain ⟨next, first, later⟩ := taken
    obtain ⟨runner, handles⟩ := step?_ends first
    obtain ⟨runner', handles'⟩ := ih later
    rw [runner', runner, List.all_cons, Bool.and_assoc, List.map_cons, List.map_cons,
      List.sum_cons, List.sum_cons]
    exact ⟨rfl, by omega⟩

structure Attended (given : List (Job C)) (q : CallbackQueue C) : Prop where
  ordered : q.ran ++ q.waiting = given
  own : ∀ (i : Nat) (job : Job C), q.ran[i]? = some job → given[i]? = some job
  quiet : ∀ job, (q.deliver job).ran = q.ran ∧ (q.deliver job).waiting = q.waiting ++ [job]
  next : ∀ job, given[q.ran.length]? = some job →
    q.runNext.1 = some true ∧ q.runNext.2.ran = q.ran ++ [job] ∧
      q.runNext.2.ran ++ q.runNext.2.waiting = given
  stops : q.runNext.1 = some false ↔ q.ran = given ∧ q.handles = 0
  waits : q.runNext.1 = none ↔ q.ran = given ∧ q.handles ≠ 0
  pending : q.runPending.1 + q.ran.length = given.length ∧ q.runPending.2.ran = given ∧
    q.runPending.2.waiting = []
  oneByOne : q.runPending = (q.takeAll.1, q.takeAll.2.2) ∧
    q.after? (.replicate q.waiting.length .runNext) = some q.takeAll.2.2
  runs : q.run? = if q.takeAll.2.1 = some false then some q.takeAll.2.2.dropRunner else none
  ends : ∀ q', q.run? = some q' → q.handles = 0 ∧ q'.ran = given ∧ q'.hasRunner = false
  endless : q.run? = none ↔ q.handles ≠ 0

theorem Attended.of_account {given lost : List (Job C)} (account : Account given lost q)
    (present : q.hasRunner) : Attended given q := by
  obtain rfl := account.given_eq present
  constructor
  case ordered => rfl
  case own =>
    intro i job ran
    rw [List.getElem?_append_left (List.getElem?_eq_some_iff.mp ran).1]
    exact ran
  case quiet =>
    intro job
    simp [deliver, present]
  case next =>
    intro job first
    rw [List.getElem?_append_right (Nat.le_refl _), Nat.sub_self] at first
    cases waiting : q.waiting with
    | nil =>
      rw [waiting] at first
      cases first
    | cons oldest rest =>
      rw [waiting] at first
      cases first
      simp [runNext_cons waiting]
  case stops =>
    cases waiting : q.waiting with
    | nil => simp [runNext_nil waiting]
    | cons job rest => simp [runNext_cons waiting]
  case waits =>
    cases waiting : q.waiting with
    | nil => simp [runNext_nil waiting]
    | cons job rest => simp [runNext_cons waiting]
  case pending => simp [runPending, Nat.add_comm]
  case oneByOne =>
    rw [takeAll_eq, after?_runNexts present]
    exact ⟨rfl, rfl⟩
  case runs =>
    rw [takeAll_eq, run?]
    split <;> simp
  case ends =>
    intro q' ended
    simp only [run?, Option.ite_none_right_eq_some, Option.some.injEq] at ended
    obtain ⟨closed, rfl⟩ := ended
    exact ⟨closed, rfl, rfl⟩
  case endless => simp [run?]

structure RunsInOrder (steps : List (Step C)) (q : CallbackQueue C) : Prop where
  runner : q.hasRunner = steps.all Step.keepsRunner
  handles : q.handles + (steps.map Step.dropped).sum = 1 + (steps.map Step.cloned).sum
  attended : q.hasRunner → Attended (deliveries steps) q
  unattended : q.hasRunner = false →
    ∀ job, (q.deliver job).ran = q.ran ++ [job] ∧ (q.deliver job).waiting = []

/-- As long as there is a runner, jobs run in the order of delivery, each once and only when the
runner takes it. After that they run as they are delivered. -/
theorem queued_runsInOrder {steps : List (Step C)} {q : CallbackQueue C}
    (taken : (queued : CallbackQueue C).after? steps = some q) : RunsInOrder steps q := by
  have account := Account.queued.after taken
  obtain ⟨runner, handles⟩ := after?_ends taken
  constructor
  case runner => simpa [queued] using runner
  case handles => exact handles
  case attended => exact Attended.of_account account
  case unattended =>
    intro absent job
    simp [deliver, runNow, absent, account.noneWaits absent]

def takenSteps : List (Step String) :=
  [.deliver (doneJob "a"), .clone, .deliver (doneJob "b"), .runNext, .deliver (doneJob "c"),
    .dropHandles 1, .runNext]

theorem takenSteps_runsInOrder :
    ∃ q, (queued : CallbackQueue String).after? takenSteps = some q ∧ q.handles = 1 ∧
      q.hasRunner ∧ q.ran = [doneJob "a", doneJob "b"] ∧ q.waiting = [doneJob "c"] ∧
      RunsInOrder takenSteps q ∧
      ∃ q', (queued : CallbackQueue String).after? (takenSteps ++ [.dropHandles 1, .run]) =
          some q' ∧ q'.ran = [doneJob "a", doneJob "b", doneJob "c"] ∧
        RunsInOrder (takenSteps ++ [.dropHandles 1, .run]) q' :=
  ⟨_, rfl, rfl, rfl, rfl, rfl, queued_runsInOrder rfl, _, rfl, rfl, queued_runsInOrder rfl⟩

end SiteCache.Sync.CallbackQueue
