import SiteCache.Proofs.Sync.Mirroring
import SiteCache.Proofs.Sync.Ordering
import SiteCache.Sync.Stores

set_option autoImplicit false

namespace SiteCache.Sync

open Remote (Service)
open Store

theorem Task.act?_of_stuck {σ : Type} {remote : Service σ} {s : Shared σ} {t : Task}
    (stuck : t.step remote s = none) : t.act? remote s = none := by
  obtain ⟨k, site, work, paging, p⟩ := t
  cases p with
  | fetching lock w => cases work <;> cases stuck
  | ready lock pass =>
    simp only [Task.step] at stuck
    simp only [Task.act?]
    split at stuck <;> rename_i writing
    · rw [if_pos writing]
    · split at stuck <;> cases stuck
  | writing lock session summary rest deletion => cases rest <;> cases stuck
  | deleting lock session summary deletion => cases stuck
  | committing lock session summary => cases stuck
  | _ => rfl

inductive Move (σ : Type) where
  | task (i : Nat)
  | remote (change : σ → σ)

namespace Stores

variable {σ C : Type} {remote : Service σ} {s s' : Stores σ C} {i : Nat}

def tasks (s : Stores σ C) : List Task := s.spawned.map (·.task)

def move (remote : Service σ) (s : Stores σ C) : Move σ → Stores σ C
  | .task i => (s.step remote i).getD s
  | .remote change => { s with shared.world.remote := change s.shared.world.remote }

def marks (remote : Service σ) (s : Stores σ C) : Move σ → List Mark
  | .task i => ((s.tasks[i]?).bind (·.act? remote s.shared)).toList.map (Mark.mk i)
  | .remote _ => []

-- What is seen during some moves, and the state after them.
def trace (remote : Service σ) (s : Stores σ C) (moves : List (Move σ)) : List Mark × Stores σ C :=
  moves.foldl (fun (log, s) move => (log ++ s.marks remote move, s.move remote move)) ([], s)

structure Fresh (s : Stores σ C) : Prop where
  idle : ∀ t ∈ s.tasks, t.phase = .idle
  unlocked : ∀ k, s.shared.locks k = .empty
  unopened : s.shared.writing = false

theorem Fresh.owned (fresh : s.Fresh) : Owned s.tasks s.shared :=
  .idle fresh.idle fresh.unlocked fresh.unopened

theorem Fresh.spawn (fresh : s.Fresh) (a : Action) (completion : C) :
    (s.spawn a completion).Fresh where
  idle t member := by
    simp only [tasks, Stores.spawn, List.map_append, List.mem_append] at member
    rcases member with member | member
    · exact fresh.idle t member
    · rw [List.mem_singleton.mp member]
      rfl
  unlocked := fresh.unlocked
  unopened := fresh.unopened

theorem trace_run (schedule : List Nat) :
    (s.trace remote (schedule.map .task)).2 = s.run remote schedule := by
  unfold trace run
  rw [List.foldl_map]
  induction schedule using List.reverseRecOn with
  | nil => rfl
  | append_singleton schedule i ih =>
    rw [List.foldl_append, List.foldl_append, ← ih]
    rfl

theorem step_cases (stepped : s.step remote i = some s') :
    ∃ w, s.spawned[i]? = some w ∧
      ((∃ shared p, w.task.step remote s.shared = some (shared, p) ∧
        s' = { s with
          shared := shared
          spawned := s.spawned.set i { w with task := w.task.moveTo p } }) ∨
      ∃ result, w.task.step remote s.shared = none ∧ w.task.result? = some result ∧
        w.pending = true ∧
        s' = { s with
          queue := conclude s.queue w result
          spawned := s.spawned.set i { w with pending := false } }) := by
  unfold step at stepped
  simp only [Option.bind_eq_bind, Option.bind_eq_some_iff] at stepped
  obtain ⟨w, found, stepped⟩ := stepped
  refine ⟨w, found, ?_⟩
  split at stepped <;> rename_i taken
  · cases stepped
    exact .inl ⟨_, _, taken, rfl⟩
  · simp only [Option.bind_eq_some_iff] at stepped
    obtain ⟨result, ended, delivered⟩ := stepped
    split at delivered <;> rename_i pending <;> cases delivered
    exact .inr ⟨result, taken, ended, pending, rfl⟩

theorem task_of_spawned {w : Spawned C} (found : s.spawned[i]? = some w) :
    s.tasks[i]? = some w.task := by
  rw [tasks, List.getElem?_map, found]
  rfl

theorem tasks_of_step (stepped : s.step remote i = some s') :
    (∃ t p, s.tasks[i]? = some t ∧ t.step remote s.shared = some (s'.shared, p) ∧
      s'.tasks = s.tasks.set i (t.moveTo p)) ∨
    (s'.shared = s.shared ∧ s'.tasks = s.tasks ∧ s.marks remote (.task i) = []) := by
  obtain ⟨w, found, steps⟩ := step_cases stepped
  have looked := task_of_spawned found
  rcases steps with ⟨shared, p, taken, rfl⟩ | ⟨result, stuck, -, -, rfl⟩
  · exact .inl ⟨w.task, p, looked, taken, by simp [tasks, List.map_set]⟩
  · -- A delivery changes neither the tasks nor what they share.
    exact .inr ⟨rfl, map_set_same found rfl, by simp [marks, looked, Task.act?_of_stuck stuck]⟩

theorem marks_of_stuck (stuck : s.step remote i = none) : s.marks remote (.task i) = [] := by
  unfold step at stuck
  rw [marks, tasks, List.getElem?_map]
  cases found : s.spawned[i]? with
  | none => rfl
  | some w =>
    simp only [found, Option.bind_eq_bind, Option.bind_some] at stuck
    split at stuck <;> rename_i taken
    · cases stuck
    · simp [Task.act?_of_stuck taken]

variable {errands : List Errand} {start : Database} {log : List Mark}

theorem orderly_move (orderly : Orderly errands start log s.tasks s.shared) (move : Move σ) :
    Orderly errands start (log ++ s.marks remote move) (s.move remote move).tasks
      (s.move remote move).shared := by
  cases move with
  | remote change =>
    rw [marks, List.append_nil]
    exact ⟨orderly.sent, orderly.guarded, orderly.writing, orderly.progress, orderly.serial,
      orderly.behind, orderly.apart⟩
  | task i =>
    rw [Stores.move]
    cases stepped : s.step remote i with
    | none =>
      rw [marks_of_stuck stepped, List.append_nil]
      exact orderly
    | some s' =>
      rw [Option.getD_some]
      rcases tasks_of_step stepped with ⟨t, p, found, taken, tasks⟩ | ⟨shared, tasks, unseen⟩
      · rw [tasks, marks, found, Option.bind_some]
        exact orderly.step found (taken_of_step taken)
      · rw [unseen, List.append_nil, shared, tasks]
        exact orderly

theorem orderly_start (fresh : s.Fresh) :
    Orderly (s.tasks.map Task.errand) s.shared.world.db [] s.tasks s.shared where
  sent := rfl
  guarded := fresh.owned.guarded
  writing := fresh.owned.writing
  progress i t found := by
    rw [fresh.idle t (List.mem_of_getElem? found)]
    exact .unseen rfl rfl rfl
  serial := .start
  behind _ _ _ _ _ _ _ _ _ _ _ := .nil
  apart _ _ _ _ _ _ _ _ _ := .inl .nil

theorem orderly_trace (fresh : s.Fresh) (moves : List (Move σ)) :
    Orderly (s.tasks.map Task.errand) s.shared.world.db (s.trace remote moves).1
      (s.trace remote moves).2.tasks (s.trace remote moves).2.shared := by
  unfold trace
  -- On the moves from the end, since the log grows there.
  induction moves using List.reverseRecOn with
  | nil => exact orderly_start fresh
  | append_singleton moves move ih =>
    rw [List.foldl_append]
    exact orderly_move ih move

end Stores

/-- What an interleaving amounts to: from the start to the state after the acts of the log. -/
structure Serialized {σ C : Type} (start : Stores σ C) (log : List Mark) (s : Stores σ C) :
    Prop where
  serial : Serial (start.tasks.map Task.errand) start.shared.world.db log s.shared.world.db
  once : ∀ (i : Nat) (t : Task), s.tasks[i]? = some t → (actsOf i log).countP Act.isClosed ≤ 1
  committed : ∀ (i : Nat) (t : Task) (summary : Summary), s.tasks[i]? = some t →
    t.result? = some (.ok summary) → ⟨i, .closed (.ok summary)⟩ ∈ log
  single : ∀ (i j : Nat) (t u : Task), s.tasks[i]? = some t → s.tasks[j]? = some u →
    t.writes = true → u.writes = true → i = j
  apart : ∀ (i j : Nat) (t u : Task), i ≠ j → start.tasks[i]? = some t →
    start.tasks[j]? = some u → t.kind = u.kind → t.site = u.site →
    Before i j log ∨ Before j i log
  later : ∀ (i j : Nat) (t u : Task) (earlier rest : List Mark)
    (result result' : Except DbError Summary), i ≠ j → start.tasks[i]? = some t →
    start.tasks[j]? = some u → t.kind = u.kind → t.site = u.site →
    log = earlier ++ ⟨i, .closed result⟩ :: rest → ⟨j, .closed result'⟩ ∈ rest →
    ∀ m ∈ earlier, m.task ≠ j

theorem trace_serialized {σ C : Type} {remote : Service σ} {start : Stores σ C}
    (fresh : start.Fresh) (moves : List (Move σ)) :
    Serialized start (start.trace remote moves).1 (start.trace remote moves).2 := by
  have orderly : Orderly (start.tasks.map Task.errand) start.shared.world.db
      (start.trace remote moves).1 (start.trace remote moves).2.tasks
      (start.trace remote moves).2.shared := Stores.orderly_trace fresh moves
  have apart : ∀ (i j : Nat) (t u : Task), i ≠ j → start.tasks[i]? = some t →
      start.tasks[j]? = some u → t.kind = u.kind → t.site = u.site →
      Before i j (start.trace remote moves).1 ∨ Before j i (start.trace remote moves).1 := by
    intro i j t u different first second kind site
    obtain ⟨t', first', same⟩ := orderly.errand_eq first
    obtain ⟨u', second', same'⟩ := orderly.errand_eq second
    simp only [Task.errand, Errand.mk.injEq] at same same'
    exact orderly.apart i j t' u' different first' second'
      (same.1.trans (kind.trans same'.1.symm)) (same.2.1.trans (site.trans same'.2.1.symm))
  refine ⟨orderly.serial, fun _ _ => orderly.once,
    fun _ _ _ found result => orderly.committed found result, ?_, apart, ?_⟩
  · intro i j t u first second writes writes'
    exact orderly.eq_of_pending first second writes writes'
  · intro i j t u earlier rest result result' different first second kind site split after m member
    rcases apart i j t u different first second kind site with before | before
    · -- All that is seen of the one is before all that is seen of the other.
      rintro rfl
      rw [Before, split, List.pairwise_append] at before
      exact before.2.2 m member _ List.mem_cons_self rfl rfl
    · exact absurd before (not_before split after)

def contendingStores : Stores Remote.Script Unit where
  paging := .paged 2 5
  shared := ⟨couponWorld, false, fun _ => .empty, false⟩
  queue := .queued
  spawned :=
    [⟨(), ⟨.coupon, ⟨7⟩, .synchronize .unpaged .replace, .paged 2 5, .idle⟩, true⟩,
      ⟨(), ⟨.coupon, ⟨7⟩, .reset, .paged 2 5, .idle⟩, true⟩]

-- They take turns, and the remote loses its records while the first of them fetches.
def contendingMoves : List (Move Remote.Script) :=
  [.task 0, .task 1, .task 0, .task 1, .task 0, .remote fun _ => .empty] ++
    (List.replicate 18 [.task 1, .task 0]).flatten

def contended : List Mark × Stores Remote.Script Unit :=
  contendingStores.trace Remote.Script.service contendingMoves

theorem contendingStores_fresh : contendingStores.Fresh := by
  refine ⟨?_, fun _ => rfl, rfl⟩
  intro t member
  simp only [Stores.tasks, contendingStores, List.map_cons, List.map_nil, List.mem_cons,
    List.not_mem_nil, or_false] at member
  rcases member with rfl | rfl <;> rfl

theorem contended_serialized :
    contended.1.map (·.task) = [0, 0, 0, 0, 1, 1] ∧
      contended.2.tasks.map Task.result? =
        [some (.ok ⟨1, 1, 1⟩), some (.ok ⟨0, 0, 2⟩)] ∧
      Serialized contendingStores contended.1 contended.2 :=
  ⟨rfl, rfl, trace_serialized contendingStores_fresh contendingMoves⟩

end SiteCache.Sync
