import Mathlib.Logic.Hydra
import SiteCache.Proofs.Sync.Interleaving

set_option autoImplicit false

namespace SiteCache.Sync

open Remote (Service)
open Store

/-- One task has to wait until another one lets go of what it has. -/
inductive Task.Awaits (t u : Task) : Prop
  | lock {n : Nat} : t.phase = .waiting n → u.kind = t.kind → u.site = t.site →
    u.phase.held? = some n → t.Awaits u
  | session {n : Nat} {pass : Pass t.kind} : t.phase = .ready n pass → u.writes = true →
    t.Awaits u

-- How many tasks can stand one behind the other.
def Phase.depth {k : ResourceKind} : Phase k → Nat
  | .waiting _ => 2
  | .ready .. => 1
  | _ => 0

namespace Task

variable {σ : Type} {remote : Service σ} {s : Shared σ} {t u : Task}

theorem depth_of_held {k : ResourceKind} {p : Phase k} {lock : Nat} (held : p.held? = some lock) :
    p.depth ≤ 1 := by
  cases p <;> first | exact Nat.le_refl _ | exact Nat.zero_le _ | cases held

theorem depth_of_writes (writes : u.writes = true) : u.phase.depth = 0 := by
  obtain ⟨kind, site, work, paging, p⟩ := u
  cases p <;> first | rfl | cases writes

theorem Awaits.depth_lt (awaits : t.Awaits u) : u.phase.depth < t.phase.depth := by
  cases awaits with
  | lock waiting _ _ held =>
    rw [waiting]
    exact Nat.lt_succ_of_le (depth_of_held held)
  | session ready writes =>
    rw [ready, depth_of_writes writes]
    exact Nat.one_pos

-- So nobody waits for itself, through however many others.
theorem awaits_wellFounded : WellFounded fun u t : Task => t.Awaits u :=
  Subrelation.wf (fun awaits => Awaits.depth_lt awaits)
    (InvImage.wf (fun t : Task => t.phase.depth) Nat.lt_wfRel.wf)

theorem result_of_held {lock : Nat} (held : t.phase.held? = some lock) : t.result? = none := by
  obtain ⟨kind, site, work, paging, p⟩ := t
  cases p <;> first | rfl | cases held

theorem result_of_writes (writes : t.writes = true) : t.result? = none := by
  obtain ⟨left, pending⟩ := Option.isSome_iff_exists.mp writes
  obtain ⟨lock, held⟩ := Phase.held_of_pending pending
  exact result_of_held held

theorem Awaits.unfinished (awaits : t.Awaits u) : u.result? = none := by
  cases awaits with
  | lock _ _ _ held => exact result_of_held held
  | session _ writes => exact result_of_writes writes

theorem handle_of_finished {result : Outcome Summary} (finished : t.result? = some result) :
    t.phase.handle? = none := by
  obtain ⟨kind, site, work, paging, p⟩ := t
  cases p <;> first | rfl | cases finished

theorem engaged_of_finished (finished : t.result?.isSome = true) : t.phase.engaged = false := by
  obtain ⟨kind, site, work, paging, p⟩ := t
  cases p <;> first | rfl | cases finished

theorem waits_of_stuck (unfinished : t.result? = none) (stuck : t.step remote s = none) :
    (∃ n, t.phase = .waiting n ∧ ((s.locks t.kind).state n).held = true) ∨
      ∃ n pass, t.phase = .ready n pass ∧ s.writing = true := by
  obtain ⟨k, site, work, paging, p⟩ := t
  cases p with
  | waiting lock =>
    refine .inl ⟨lock, rfl, ?_⟩
    simp only [step, Option.map_eq_none_iff, SiteLocks.acquire?] at stuck
    split at stuck <;> rename_i held
    · exact held
    · cases stuck
  | ready lock pass =>
    refine .inr ⟨lock, pass, rfl, ?_⟩
    simp only [step] at stuck
    split at stuck <;> rename_i writing
    · exact writing
    · split at stuck <;> cases stuck
  | fetching lock w => cases work <;> cases stuck
  | writing lock session summary rest deletion => cases rest <;> cases stuck
  | finished result => cases unfinished
  | _ => cases stuck

end Task

namespace Owned

variable {σ : Type} {remote : Service σ} {s : Shared σ} {tasks : List Task} {i : Nat} {t : Task}

theorem awaits (owned : Owned tasks s) (found : tasks[i]? = some t)
    (unfinished : t.result? = none) (stuck : t.step remote s = none) :
    ∃ (j : Nat) (u : Task), tasks[j]? = some u ∧ t.Awaits u := by
  rcases Task.waits_of_stuck unfinished stuck with ⟨n, waiting, held⟩ | ⟨n, pass, ready, writing⟩
  · obtain ⟨j, u, found', kind, held', entry⟩ := owned.holder held
    -- The lock is the one that the map has for the site of either.
    have own : (s.locks t.kind).entry t.site = some n :=
      (owned.guarded t.kind).known t (List.mem_of_getElem? found) rfl n (by rw [waiting]; rfl)
    have site := (owned.guarded t.kind).distinct _ _ n entry own
    exact ⟨j, u, found', .lock waiting kind site held'⟩
  · obtain ⟨j, u, found', writes⟩ := owned.writer writing
    exact ⟨j, u, found', .session ready writes⟩

theorem moves (owned : Owned tasks s) (found : tasks[i]? = some t)
    (unfinished : t.result? = none) :
    ∃ (j : Nat) (u : Task), tasks[j]? = some u ∧ u.result? = none ∧
      (u.step remote s).isSome = true := by
  induction t using Task.awaits_wellFounded.induction generalizing i with
  | _ t ih =>
    cases stepped : t.step remote s with
    | some next => exact ⟨i, t, found, unfinished, by rw [stepped]; rfl⟩
    | none =>
      obtain ⟨j, u, found', awaits⟩ := owned.awaits found unfinished stepped
      exact ih u awaits found' awaits.unfinished

theorem entry_of_far (owned : Owned tasks s) {k : ResourceKind} {site : SiteId}
    (far : ∀ t ∈ tasks, t.kind = k → t.site = site → t.phase.engaged = false) :
    (s.locks k).entry site = none := by
  cases entry : (s.locks k).entry site with
  | none => rfl
  | some n =>
    have near := (owned.guarded k).wanted site n entry
    obtain ⟨t, member, near⟩ := List.countP_pos_iff.mp near
    simp only [Task.near, Bool.and_eq_true, decide_eq_true_eq] at near
    rw [far t member near.1.1 near.1.2] at near
    cases near.2

end Owned

inductive Incident (σ : Type) where
  | task (i : Nat)
  | world (change : World σ → World σ)

namespace Stores

variable {σ C : Type} {remote : Service σ} {s s' : Stores σ C} {i : Nat}

def meet (remote : Service σ) (s : Stores σ C) : Incident σ → Stores σ C
  | .task i => (s.step remote i).getD s
  | .world change => { s with shared.world := change s.shared.world }

def meetAll (remote : Service σ) (s : Stores σ C) (incidents : List (Incident σ)) : Stores σ C :=
  incidents.foldl (meet remote) s

theorem owned_of_step (owned : Owned s.tasks s.shared) (stepped : s.step remote i = some s') :
    Owned s'.tasks s'.shared := by
  rcases tasks_of_step stepped with ⟨t, p, found, taken, tasks⟩ | ⟨shared, tasks, -⟩
  · rw [tasks]
    exact owned.step found (taken_of_step taken)
  · rw [shared, tasks]
    exact owned

theorem owned_meet (owned : Owned s.tasks s.shared) (incident : Incident σ) :
    Owned (s.meet remote incident).tasks (s.meet remote incident).shared := by
  cases incident with
  | world change => exact ⟨owned.guarded, owned.writing⟩
  | task i =>
    rw [meet]
    cases stepped : s.step remote i with
    | none => exact owned
    | some s' => exact owned_of_step owned stepped

theorem owned_meetAll (owned : Owned s.tasks s.shared) (incidents : List (Incident σ)) :
    Owned (s.meetAll remote incidents).tasks (s.meetAll remote incidents).shared := by
  induction incidents generalizing s with
  | nil => exact owned
  | cons incident incidents ih => exact ih (owned_meet owned incident)

theorem step_of_task {t : Task} (found : s.tasks[i]? = some t)
    (stepped : (t.step remote s.shared).isSome = true) : (s.step remote i).isSome = true := by
  obtain ⟨⟨shared, p⟩, taken⟩ := Option.isSome_iff_exists.mp stepped
  rw [tasks, List.getElem?_map, Option.map_eq_some_iff] at found
  obtain ⟨w, found, rfl⟩ := found
  rw [step, found]
  simp [taken]

-- What every piece of work has still to do: the rest of its task, and the delivery.
def ahead (w : Spawned C) : (Nat × Nat) × Nat := (w.task.phase.measure, w.pending.toNat)

def Sooner : (Nat × Nat) × Nat → (Nat × Nat) × Nat → Prop :=
  Prod.Lex (Prod.Lex (· < ·) (· < ·)) (· < ·)

theorem sooner_wellFounded : WellFounded Sooner :=
  WellFounded.prod_lex (WellFounded.prod_lex Nat.lt_wfRel.wf Nat.lt_wfRel.wf) Nat.lt_wfRel.wf

theorem ahead_of_step (stepped : s.step remote i = some s') :
    ∃ w w', s.spawned[i]? = some w ∧ s'.spawned = s.spawned.set i w' ∧
      Sooner (ahead w') (ahead w) := by
  obtain ⟨w, found, ⟨shared, p, taken, rfl⟩ | ⟨result, -, -, pending, rfl⟩⟩ := step_cases stepped
  · exact ⟨w, _, found, rfl, .left _ _ (Task.measure_of_step taken)⟩
  · refine ⟨w, _, found, rfl, .right _ ?_⟩
    rw [pending]
    exact Nat.one_pos

theorem map_set_cutExpand {α β : Type} {r : β → β → Prop} {f : α → β} {xs : List α} {a b : α}
    (found : xs[i]? = some a) (smaller : r (f b) (f a)) :
    Relation.CutExpand r ((xs.set i b).map f : Multiset β) (xs.map f : Multiset β) := by
  obtain ⟨inside, rfl⟩ := List.getElem?_eq_some_iff.mp found
  have without : (xs : Multiset α) = xs[i] ::ₘ (xs.eraseIdx i : Multiset α) :=
    (Multiset.coe_eq_coe.mpr (List.getElem_cons_eraseIdx_perm inside)).symm
  have replaced : (xs.set i b : Multiset α) = b ::ₘ (xs.eraseIdx i : Multiset α) :=
    Multiset.coe_eq_coe.mpr (List.set_perm_cons_eraseIdx inside b)
  refine ⟨{f b}, f xs[i], ?_, ?_⟩
  · simpa using smaller
  · rw [← Multiset.map_coe, ← Multiset.map_coe, without, replaced, Multiset.map_cons,
      Multiset.map_cons, ← Multiset.singleton_add, ← Multiset.singleton_add]
    ac_rfl

theorem step_wellFounded (remote : Service σ) :
    WellFounded fun s' s : Stores σ C => ∃ i, s.step remote i = some s' := by
  refine Subrelation.wf ?_
    (InvImage.wf (fun s : Stores σ C => (s.spawned.map ahead : Multiset _))
      sooner_wellFounded.cutExpand)
  rintro s' s ⟨i, stepped⟩
  obtain ⟨w, w', found, spawned, sooner⟩ := ahead_of_step stepped
  rw [InvImage, spawned]
  exact map_set_cutExpand found sooner

theorem settled_of_stuck (owned : Owned s.tasks s.shared) (stuck : ∀ i, s.step remote i = none) :
    ∀ w ∈ s.spawned, w.task.result?.isSome = true ∧ w.pending = false := by
  intro w member
  obtain ⟨i, found⟩ := List.getElem?_of_mem member
  have ended : w.task.result?.isSome = true := by
    by_contra unfinished
    obtain ⟨j, u, found', -, stepped⟩ :=
      owned.moves (task_of_spawned found) (Option.not_isSome_iff_eq_none.mp unfinished)
    have moves := step_of_task found' stepped
    rw [stuck j] at moves
    cases moves
  refine ⟨ended, ?_⟩
  by_contra pending
  obtain ⟨result, result_eq⟩ := Option.isSome_iff_exists.mp ended
  have delivers := stuck i
  rw [step, found] at delivers
  simp only [Option.bind_eq_bind, Option.bind_some] at delivers
  split at delivers
  · cases delivers
  · simp [result_eq, pending] at delivers

theorem settles (owned : Owned s.tasks s.shared) :
    ∃ schedule : List Nat, ∀ w ∈ (s.run remote schedule).spawned,
      w.task.result?.isSome = true ∧ w.pending = false := by
  induction s using (step_wellFounded remote).induction with
  | _ s ih =>
    by_cases stuck : ∀ i, s.step remote i = none
    · exact ⟨[], settled_of_stuck owned stuck⟩
    · obtain ⟨i, moves⟩ := not_forall.mp stuck
      obtain ⟨s', stepped⟩ := Option.ne_none_iff_exists'.mp moves
      obtain ⟨schedule, ends⟩ := ih s' ⟨i, stepped⟩ (owned_of_step owned stepped)
      refine ⟨i :: schedule, ?_⟩
      rw [run, List.foldl_cons, stepped]
      exact ends

end Stores

/-- No task is kept from going on for good, and none that has ended keeps another. -/
structure Unblocked {σ C : Type} (remote : Service σ) (s : Stores σ C) : Prop where
  moves : ∀ (i : Nat) (t : Task), s.tasks[i]? = some t → t.result? = none →
    ∃ (j : Nat) (u : Task), s.tasks[j]? = some u ∧ u.result? = none ∧
      (s.step remote j).isSome = true
  waits : ∀ (i : Nat) (t : Task), s.tasks[i]? = some t → t.result? = none →
    s.step remote i = none → ∃ (j : Nat) (u : Task), s.tasks[j]? = some u ∧ t.Awaits u ∧
      u.phase.depth < t.phase.depth
  writer : s.shared.writing = true → ∃ t ∈ s.tasks, t.phase.result? = none ∧ t.writes = true
  holder : ∀ (k : ResourceKind) (n : Nat), ((s.shared.locks k).state n).held = true →
    ∃ t ∈ s.tasks, t.result? = none ∧ t.holds k n = true
  released : ∀ t ∈ s.tasks, ∀ result : Outcome Summary, t.phase.result? = some result →
    t.writes = false ∧
      (t.result? = some result → ∀ (k : ResourceKind) (n : Nat), t.uses k n = false)
  forgotten : ∀ (k : ResourceKind) (site : SiteId),
    (∀ t ∈ s.tasks, t.kind = k → t.site = site → t.result?.isSome = true) →
      (s.shared.locks k).entry site = none
  settles : ∃ schedule : List Nat, ∀ w ∈ (s.run remote schedule).spawned,
    w.task.result?.isSome = true ∧ w.pending = false

theorem meetAll_unblocked {σ C : Type} {remote : Service σ} {start : Stores σ C}
    (fresh : start.Fresh) (incidents : List (Incident σ)) :
    Unblocked remote (start.meetAll remote incidents) := by
  have owned : Owned (start.meetAll remote incidents).tasks
      (start.meetAll remote incidents).shared :=
    Stores.owned_meetAll fresh.owned incidents
  generalize start.meetAll remote incidents = s at owned
  constructor
  · intro i t found unfinished
    obtain ⟨j, u, found', unfinished', stepped⟩ := owned.moves found unfinished
    exact ⟨j, u, found', unfinished', Stores.step_of_task found' stepped⟩
  · intro i t found unfinished stuck
    have stuck' : t.step remote s.shared = none := by
      by_contra moves
      have moves := Stores.step_of_task found (Option.isSome_iff_ne_none.mpr moves)
      rw [stuck] at moves
      cases moves
    obtain ⟨j, u, found', awaits⟩ := owned.awaits found unfinished stuck'
    exact ⟨j, u, found', awaits, awaits.depth_lt⟩
  · intro writing
    obtain ⟨j, u, found, writes⟩ := owned.writer writing
    obtain ⟨left, pending⟩ := Option.isSome_iff_exists.mp writes
    exact ⟨u, List.mem_of_getElem? found, Phase.result_of_pending pending, writes⟩
  · intro k n held
    obtain ⟨j, u, found, kind, held', -⟩ := owned.holder held
    exact ⟨u, List.mem_of_getElem? found, Task.result_of_held held',
      by simp [Task.holds, kind, held']⟩
  · intro t _ result ended
    refine ⟨?_, ?_⟩
    · by_contra writes
      rw [Bool.not_eq_false] at writes
      obtain ⟨left, pending⟩ := Option.isSome_iff_exists.mp writes
      cases (Phase.result_of_pending pending).symm.trans ended
    · intro finished k n
      simp [Task.uses, Task.handle_of_finished finished]
  · intro k site ended
    exact owned.entry_of_far fun t member kind same =>
      Task.engaged_of_finished (ended t member kind same)
  · exact Stores.settles owned

def blockedStores : Stores Remote.Script Unit :=
  contendingStores.meetAll Remote.Script.service
    [.task 0, .task 1, .task 0, .world fun world => { world with db.isOpen := false }]

theorem blocked_unblocked :
    (blockedStores.step Remote.Script.service 1).isNone = true ∧
      (blockedStores.step Remote.Script.service 0).isSome = true ∧
      Unblocked Remote.Script.service blockedStores :=
  ⟨rfl, rfl, meetAll_unblocked contendingStores_fresh _⟩

end SiteCache.Sync
