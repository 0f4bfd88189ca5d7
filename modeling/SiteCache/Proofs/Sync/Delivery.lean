import SiteCache.Sync.Callback

set_option autoImplicit false

namespace SiteCache.Sync.CallbackQueue

variable {C : Type}

/-- What can happen to a queue. A runner that waits for new jobs takes them one by one, and `run` is
its end. -/
inductive Step (C : Type) where
  | deliver (job : Job C)
  | clone
  | dropHandles (count : Nat)
  | runNext
  | runPending
  | run
  | dropRunner

def step? (q : CallbackQueue C) : Step C → Option (CallbackQueue C)
  | .deliver job => if 0 < q.handles then some (q.deliver job) else none
  | .clone => if 0 < q.handles then some q.clone else none
  | .dropHandles count => if count ≤ q.handles then some (q.dropHandles count) else none
  | .runNext => if q.hasRunner then q.runNext.1.map fun _ => q.runNext.2 else none
  | .runPending => if q.hasRunner then some q.runPending.2 else none
  | .run => if q.hasRunner then q.run? else none
  | .dropRunner => if q.hasRunner then some q.dropRunner else none

-- What a step leads to, where it can be taken.
@[simp] def act (q : CallbackQueue C) : Step C → CallbackQueue C
  | .deliver job => q.deliver job
  | .clone => q.clone
  | .dropHandles count => q.dropHandles count
  | .runNext => q.runNext.2
  | .runPending => q.runPending.2
  | .run => q.runPending.2.dropRunner
  | .dropRunner => q.dropRunner

def Step.Allowed (q : CallbackQueue C) : Step C → Prop
  | .deliver _ | .clone => 0 < q.handles
  | .dropHandles count => count ≤ q.handles
  | .runNext | .runPending | .run | .dropRunner => q.hasRunner

theorem act_of_step? {q q' : CallbackQueue C} {s : Step C} (taken : q.step? s = some q') :
    q' = q.act s ∧ s.Allowed q := by
  cases s with
  | runNext =>
    simp only [step?, Option.ite_none_right_eq_some, Option.map_eq_some_iff] at taken
    obtain ⟨present, _, -, rfl⟩ := taken
    exact ⟨rfl, present⟩
  | run =>
    simp only [step?, run?, Option.ite_none_right_eq_some, Option.some.injEq] at taken
    obtain ⟨present, -, rfl⟩ := taken
    exact ⟨rfl, present⟩
  | _ =>
    simp only [step?, Option.ite_none_right_eq_some, Option.some.injEq] at taken
    exact ⟨taken.2.symm, taken.1⟩

def after? (q : CallbackQueue C) (steps : List (Step C)) : Option (CallbackQueue C) :=
  steps.foldlM step? q

def Step.delivered : Step C → List (Job C)
  | .deliver job => [job]
  | _ => []

def deliveries (steps : List (Step C)) : List (Job C) := steps.flatMap Step.delivered

def lostAt (q : CallbackQueue C) : Step C → List (Job C)
  | .dropRunner => q.waiting
  | _ => []

def lostIn : CallbackQueue C → List (Step C) → List (Job C)
  | _, [] => []
  | q, step :: rest => q.lostAt step ++ ((q.step? step).map (lostIn · rest)).getD []

/-- Every job that has been given has run, waits, or is lost, and no job has two of these fates. -/
structure Account (given lost : List (Job C)) (q : CallbackQueue C) : Prop where
  ordered : ∃ first later, given = first ++ lost ++ later ∧ q.ran ++ q.waiting = first ++ later
  noneLost : q.hasRunner → lost = []
  noneWaits : q.hasRunner = false → q.waiting = []

namespace Account

variable {given lost : List (Job C)} {q q' : CallbackQueue C}

theorem immediate : Account [] [] (immediate : CallbackQueue C) :=
  ⟨⟨[], [], rfl, rfl⟩, fun _ => rfl, fun _ => rfl⟩

theorem queued : Account [] [] (queued : CallbackQueue C) :=
  ⟨⟨[], [], rfl, rfl⟩, fun _ => rfl, fun _ => rfl⟩

theorem given_eq (account : Account given lost q) (present : q.hasRunner) :
    given = q.ran ++ q.waiting := by
  obtain ⟨first, later, split, rest⟩ := account.ordered
  rw [split, account.noneLost present, List.append_nil, rest]

-- Jobs may run in their order, as long as the runner stays or nothing waits any more.
theorem catchUp (account : Account given lost q) (present : q.hasRunner)
    (same : q'.ran ++ q'.waiting = q.ran ++ q.waiting)
    (done : q'.hasRunner = false → q'.waiting = []) : Account given lost q' where
  ordered := ⟨given, [], by simp [account.noneLost present], by
    rw [same, ← account.given_eq present, List.append_nil]⟩
  noneLost _ := account.noneLost present
  noneWaits := done

theorem deliver (account : Account given lost q) (job : Job C) :
    Account (given ++ [job]) lost (q.deliver job) := by
  obtain ⟨first, later, split, rest⟩ := account.ordered
  unfold CallbackQueue.deliver
  split
  · rename_i present
    refine ⟨⟨first, later ++ [job], by simp [split], ?_⟩, account.noneLost, ?_⟩
    · rw [← List.append_assoc, ← List.append_assoc, rest]
    · intro absent
      cases present.symm.trans absent
  · rename_i absent
    have empty := account.noneWaits (by simpa using absent)
    rw [empty, List.append_nil] at rest
    refine ⟨⟨first, later ++ [job], by simp [split], ?_⟩, account.noneLost, account.noneWaits⟩
    simp [runNow, empty, rest]

theorem dropRunner (account : Account given lost q) (present : q.hasRunner) :
    Account given (lost ++ q.waiting) q.dropRunner where
  ordered := ⟨q.ran, [], by simp [account.noneLost present, account.given_eq present],
    by simp [CallbackQueue.dropRunner]⟩
  noneLost := by simp [CallbackQueue.dropRunner]
  noneWaits _ := rfl

theorem step (account : Account given lost q) {s : Step C} (taken : q.step? s = some q') :
    Account (given ++ s.delivered) (lost ++ q.lostAt s) q' := by
  obtain ⟨rfl, allowed⟩ := act_of_step? taken
  cases s with
  | deliver job => simpa [Step.delivered, lostAt] using account.deliver job
  | clone =>
    simpa [Step.delivered, lostAt] using
      (⟨account.ordered, account.noneLost, account.noneWaits⟩ : Account given lost q.clone)
  | dropHandles count =>
    simpa [Step.delivered, lostAt] using
      (⟨account.ordered, account.noneLost, account.noneWaits⟩ :
        Account given lost (q.dropHandles count))
  | runNext =>
    have same : q.runNext.2.ran ++ q.runNext.2.waiting = q.ran ++ q.waiting ∧
        q.runNext.2.hasRunner = q.hasRunner := by
      unfold CallbackQueue.runNext
      split <;> simp [*]
    have present : q.hasRunner := allowed
    have kept := account.catchUp present same.1 (by simp [same.2, present])
    simpa [Step.delivered, lostAt] using kept
  | runPending =>
    have kept : Account given lost q.runPending.2 :=
      account.catchUp allowed (by simp [CallbackQueue.runPending]) fun _ => rfl
    simpa [Step.delivered, lostAt] using kept
  | run =>
    -- A runner that has run everything loses nothing when it goes.
    have kept : Account given lost q.runPending.2.dropRunner :=
      account.catchUp allowed (by simp [CallbackQueue.runPending, CallbackQueue.dropRunner])
        fun _ => rfl
    simpa [Step.delivered, lostAt] using kept
  | dropRunner => simpa [Step.delivered, lostAt] using account.dropRunner allowed

theorem after (account : Account given lost q) {steps : List (Step C)}
    (taken : q.after? steps = some q') :
    Account (given ++ deliveries steps) (lost ++ q.lostIn steps) q' := by
  induction steps generalizing given lost q with
  | nil =>
    cases taken
    simpa [deliveries, lostIn] using account
  | cons s rest ih =>
    rw [after?, List.foldlM_cons, Option.bind_eq_bind, Option.bind_eq_some_iff] at taken
    obtain ⟨next, first, later⟩ := taken
    have all := ih (account.step first) later
    simpa [deliveries, lostIn, first, List.append_assoc] using all

end Account

/-- Once there is no runner any more, the jobs that have run are those that were delivered, in
their order and without those that were lost; so each has run exactly once unless one was lost. -/
theorem deliveries_ran {start q : CallbackQueue C} {steps : List (Step C)}
    (fresh : start = .immediate ∨ start = .queued) (taken : start.after? steps = some q)
    (ended : q.hasRunner = false) :
    (∃ first later, deliveries steps = first ++ start.lostIn steps ++ later ∧
      q.ran = first ++ later) ∧
    (q.ran.Perm (deliveries steps) ↔ start.lostIn steps = []) := by
  have begun : Account [] [] start := by
    rcases fresh with rfl | rfl
    · exact .immediate
    · exact .queued
  have account := begun.after taken
  obtain ⟨first, later, split, rest⟩ := account.ordered
  rw [account.noneWaits ended, List.append_nil] at rest
  simp only [List.nil_append] at split
  refine ⟨⟨first, later, split, rest⟩, ?_⟩
  rw [split, rest]
  constructor
  · intro same
    -- Equally many have run as were delivered, which leaves none to be lost.
    have lengths := same.length_eq
    simp only [List.length_append] at lengths
    exact List.eq_nil_of_length_eq_zero (by omega)
  · intro none
    rw [none, List.append_nil]

section

def doneJob (name : String) : Job String := ⟨name, .ok .zero⟩

-- Two handles, one job that runs while it waits, one that is lost, and one that comes too late.
def mixedSteps : List (Step String) :=
  [.deliver (doneJob "a"), .clone, .deliver (doneJob "b"), .runNext, .dropHandles 1, .dropRunner,
    .deliver (doneJob "c"), .dropHandles 1]

theorem mixedSteps_ran :
    ∃ q, (queued : CallbackQueue String).after? mixedSteps = some q ∧ q.handles = 0 ∧
      q.hasRunner = false ∧ q.ran = [doneJob "a", doneJob "c"] ∧
      (∃ first later, deliveries mixedSteps = first ++ [doneJob "b"] ++ later ∧
        q.ran = first ++ later) ∧
      ¬ q.ran.Perm (deliveries mixedSteps) := by
  have lost : (queued : CallbackQueue String).lostIn mixedSteps = [doneJob "b"] := rfl
  obtain ⟨fates, once⟩ := deliveries_ran (.inr rfl)
    (rfl : (queued : CallbackQueue String).after? mixedSteps = some _) rfl
  rw [lost] at fates once
  exact ⟨_, rfl, rfl, rfl, rfl, fates, fun same => by cases once.mp same⟩

theorem droppedRunner_forgets :
    ∃ q, (queued : CallbackQueue String).after?
        [.deliver (doneJob "a"), .dropHandles 1, .dropRunner] = some q ∧
      q.handles = 0 ∧ q.hasRunner = false ∧ q.ran = [] ∧
      ¬ q.ran.Perm (deliveries [.deliver (doneJob "a"), .dropHandles 1, .dropRunner]) :=
  ⟨_, rfl, rfl, rfl, rfl, fun same => by cases same.length_eq⟩

end

end SiteCache.Sync.CallbackQueue
