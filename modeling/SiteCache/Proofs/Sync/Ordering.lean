import SiteCache.Proofs.Sync.Holding
import SiteCache.Proofs.Sync.Progress

set_option autoImplicit false

namespace SiteCache.Sync

open Remote (Service Reply)
open Store

structure Mark where
  task : Nat
  act : Act

def actsOf (i : Nat) (log : List Mark) : List Act :=
  (log.filter (·.task = i)).map (·.act)

/-- The store that comes of running, one after another, the passes of the sessions that have been
closed, each with what its task had fetched. A session that was not committed fails here as well. -/
inductive Serial (errands : List Errand) (start : Database) : List Mark → Database → Prop
  | start : Serial errands start [] start
  | quiet {log : List Mark} {mark : Mark} {db : Database} : Serial errands start log db →
    mark.act.isClosed = false → Serial errands start (log ++ [mark]) db
  | closed {log : List Mark} {i : Nat} {e : Errand} {result : Except DbError Summary}
      {db db' : Database} : Serial errands start log db → errands[i]? = some e →
    inSession (e.pass (actsOf i log)) db = (result, db') →
    Serial errands start (log ++ [⟨i, .closed result⟩]) db'

-- Nothing is seen of one task after something has been seen of the other.
def Before (i j : Nat) (log : List Mark) : Prop :=
  log.Pairwise fun m m' => m.task = j → m'.task ≠ i

structure Orderly (errands : List Errand) (start : Database) (log : List Mark)
    (tasks : List Task) {σ : Type} (s : Shared σ) : Prop where
  sent : tasks.map Task.errand = errands
  guarded : ∀ k, Guarded k tasks (s.locks k)
  writing : tasks.countP Task.writes = s.writing.toNat
  progress : ∀ (i : Nat) (t : Task), tasks[i]? = some t →
    Progress s.world.db (actsOf i log) t.kind t.site t.work t.phase
  serial : Serial errands start log s.world.db
  behind : ∀ (i j : Nat) (t u : Task) (lock : Nat), i ≠ j → tasks[i]? = some t →
    tasks[j]? = some u → t.kind = u.kind → t.site = u.site → t.phase.held? = some lock →
    Before j i log
  apart : ∀ (i j : Nat) (t u : Task), i ≠ j → tasks[i]? = some t → tasks[j]? = some u →
    t.kind = u.kind → t.site = u.site → Before i j log ∨ Before j i log

section

variable {log : List Mark} {i j : Nat}

theorem actsOf_self (seen : Option Act) :
    actsOf i (log ++ seen.toList.map (Mark.mk i)) = actsOf i log ++ seen.toList := by
  cases seen <;> simp [actsOf]

theorem actsOf_other (other : j ≠ i) (seen : Option Act) :
    actsOf j (log ++ seen.toList.map (Mark.mk i)) = actsOf j log := by
  cases seen <;> simp [actsOf, Ne.symm other]

theorem before_of_unseen (unseen : actsOf j log = []) : Before i j log := by
  simp only [actsOf, List.map_eq_nil_iff, List.filter_eq_nil_iff, decide_eq_true_eq] at unseen
  exact List.pairwise_of_forall_mem_list fun m member _ _ same => absurd same (unseen m member)

theorem before_append (before : Before i j log) {l : Nat} (other : l ≠ i) (seen : Option Act) :
    Before i j (log ++ seen.toList.map (Mark.mk l)) := by
  cases seen with
  | none => simpa using before
  | some act =>
    simp only [Before, Option.toList_some, List.map_cons, List.map_nil, List.pairwise_append,
      List.pairwise_singleton, List.mem_singleton, true_and]
    refine ⟨before, ?_⟩
    rintro m - m' rfl -
    exact other

theorem not_before {earlier later : List Mark} {m m' : Mark} (split : log = earlier ++ m :: later)
    (after : m' ∈ later) : ¬ Before m'.task m.task log := by
  intro before
  rw [Before, split, List.pairwise_append, List.pairwise_cons] at before
  exact before.2.1.1 m' after rfl rfl

theorem mem_actsOf (act : Act) : act ∈ actsOf i log ↔ ⟨i, act⟩ ∈ log := by
  simp only [actsOf, List.mem_map, List.mem_filter, decide_eq_true_eq]
  constructor
  · rintro ⟨m, ⟨member, rfl⟩, rfl⟩
    exact member
  · exact fun member => ⟨_, ⟨member, rfl⟩, rfl⟩

theorem map_set_same {α β : Type} {f : α → β} {xs : List α} {a b : α} (found : xs[i]? = some a)
    (same : f b = f a) : (xs.set i b).map f = xs.map f := by
  apply List.ext_getElem?
  intro j
  rw [List.getElem?_map, List.getElem?_map]
  by_cases here : i = j
  · subst here
    obtain ⟨inside, -⟩ := List.getElem?_eq_some_iff.mp found
    rw [List.getElem?_set_self inside, found, Option.map_some, Option.map_some, same]
  · rw [List.getElem?_set_ne here]

theorem lookup_set {tasks : List Task} {t t' u : Task} (found : tasks[i]? = some t)
    (looked : (tasks.set i t')[j]? = some u) : (j = i ∧ u = t') ∨ (j ≠ i ∧ tasks[j]? = some u) := by
  by_cases same : j = i
  · subst same
    obtain ⟨inside, -⟩ := List.getElem?_eq_some_iff.mp found
    rw [List.getElem?_set_self inside] at looked
    cases looked
    exact .inl ⟨rfl, rfl⟩
  · rw [List.getElem?_set_ne (Ne.symm same)] at looked
    exact .inr ⟨same, looked⟩

end

section

variable {σ : Type} {remote : Service σ} {k : ResourceKind} {site : SiteId} {work : Work}
  {paging : Paging} {s s' : Shared σ} {p p' : Phase k} {seen : Option Act}

theorem Taken.held_of_seen (taken : Taken remote k site work paging s p seen s' p')
    (acted : seen ≠ none) : ∃ lock, p.held? = some lock := by
  cases taken with
  | inside inside => exact ⟨_, inside.held.1⟩
  | _ => exact absurd rfl acted

theorem Taken.held_before (taken : Taken remote k site work paging s p seen s' p') {lock : Nat}
    (held : p'.held? = some lock) :
    p.held? = some lock ∨ (p.held? = none ∧ p.result? = none ∧ seen = none) := by
  cases taken with
  | enter => cases held
  | acquire => exact .inr ⟨rfl, rfl, rfl⟩
  | inside inside =>
    rw [inside.held.2] at held
    exact .inl (inside.held.1.trans held)
  | release => cases held
  | drop => cases held
  | sweep => cases held

theorem Taken.db (taken : Taken remote k site work paging s p seen s' p') :
    (s'.world.db = s.world.db ∧ ∀ act, seen = some act → act.isClosed = false) ∨
      ∃ act session result, p.pending? site = some (act, session) ∧ seen = some (.closed result) ∧
        finish s.world.db (act.run session) = (result, s'.world.db) ∧ p'.pending? site = none := by
  cases taken with
  | inside inside =>
    cases inside with
    | listed => exact .inl ⟨rfl, by rintro _ ⟨⟩; rfl⟩
    | opened => exact .inl ⟨rfl, by rintro _ ⟨⟩; rfl⟩
    | closed _ pending ends => exact .inr ⟨_, _, _, pending, rfl, ends, rfl⟩
    | _ => exact .inl ⟨rfl, nofun⟩
  | _ => exact .inl ⟨rfl, nofun⟩

variable {errands : List Errand} {start : Database} {log : List Mark} {tasks : List Task} {i : Nat}

namespace Orderly

section

variable (orderly : Orderly errands start log tasks s)
  (found : tasks[i]? = some ⟨k, site, work, paging, p⟩)
  (taken : Taken remote k site work paging s p seen s' p')

include orderly

theorem owned : Owned tasks s := ⟨orderly.guarded, orderly.writing⟩

include found

theorem eq_of_pending {j : Nat} {u : Task} (found' : tasks[j]? = some u)
    (pending : (p.pending? site).isSome = true) (pending' : u.writes = true) : i = j :=
  orderly.owned.eq_of_writes found found' pending pending'

include taken

theorem step_progress {j : Nat} {u : Task}
    (looked : (tasks.set i ⟨k, site, work, paging, p'⟩)[j]? = some u) :
    Progress s'.world.db (actsOf j (log ++ seen.toList.map (Mark.mk i))) u.kind u.site u.work
      u.phase := by
  rcases lookup_set found looked with ⟨rfl, rfl⟩ | ⟨other, found'⟩
  · rw [actsOf_self]
    have next := (orderly.progress j _ found).step (fun _ => rfl) taken
    rcases taken.db with ⟨same, -⟩ | ⟨act, session, result, -, -, -, unopened⟩
    · rw [same]
      exact next
    · exact next.of_unopened unopened
  · rw [actsOf_other other]
    have before := orderly.progress j u found'
    rcases taken.db with ⟨same, -⟩ | ⟨act, session, result, pending, -, -, -⟩
    · rw [same]
      exact before
    · -- The task that has closed its session was the only one with a session.
      have unopened : u.phase.pending? u.site = none := by
        by_contra opened
        exact other (orderly.eq_of_pending found found' (by rw [pending]; rfl)
          (Option.isSome_iff_ne_none.mpr opened)).symm
      exact before.of_unopened unopened

-- What is left of a pass ends on its session as the whole pass does on a new one.
theorem step_db :
    (s'.world.db = s.world.db ∧ ∀ act, seen = some act → act.isClosed = false) ∨
      ∃ result, seen = some (.closed result) ∧
        inSession (Errand.pass ⟨k, site, work⟩ (actsOf i log)) s.world.db =
          (result, s'.world.db) := by
  rcases taken.db with same | ⟨act, session, result, pending, seen, ends, -⟩
  · exact .inl same
  · obtain ⟨⟨begun, opened, whole⟩, -⟩ := (orderly.progress i _ found).of_pending pending
    refine .inr ⟨result, seen, ?_⟩
    rw [inSession_eq_finish _ opened, ← whole]
    exact ends

theorem step_serial :
    Serial errands start (log ++ seen.toList.map (Mark.mk i)) s'.world.db := by
  rcases orderly.step_db found taken with ⟨same, unclosed⟩ | ⟨result, rfl, ends⟩
  · rw [same]
    cases seen with
    | none => simpa using orderly.serial
    | some act => exact .quiet orderly.serial (unclosed act rfl)
  · have errand : errands[i]? = some ⟨k, site, work⟩ := by
      rw [← orderly.sent, List.getElem?_map, found]
      rfl
    exact .closed orderly.serial errand ends

-- A task acts only while it holds its lock, and then no other task of the site does.
theorem quiet_of_held {j : Nat} {u : Task} {lock : Nat} (other : j ≠ i)
    (found' : tasks[j]? = some u) (kind : u.kind = k) (site' : u.site = site)
    (held : u.phase.held? = some lock) : seen = none := by
  by_contra acted
  obtain ⟨lock', held'⟩ := taken.held_of_seen acted
  exact other ((orderly.guarded k).exclusive found' found kind rfl site' held held')

theorem step_behind {j l : Nat} {t u : Task} {lock : Nat} (different : j ≠ l)
    (first : (tasks.set i ⟨k, site, work, paging, p'⟩)[j]? = some t)
    (second : (tasks.set i ⟨k, site, work, paging, p'⟩)[l]? = some u) (kind : t.kind = u.kind)
    (site' : t.site = u.site) (held : t.phase.held? = some lock) :
    Before l j (log ++ seen.toList.map (Mark.mk i)) := by
  rcases lookup_set found first with ⟨rfl, rfl⟩ | ⟨other, first'⟩
  · rcases lookup_set found second with ⟨rfl, -⟩ | ⟨-, second'⟩
    · exact absurd rfl different
    · apply before_append _ different
      -- Either it held the lock before, or nothing has been seen of it so far.
      rcases taken.held_before held with held | ⟨unheld, unended, -⟩
      · exact orderly.behind j l _ u lock different found second' kind site' held
      · exact before_of_unseen ((orderly.progress j _ found).of_unseen unheld unended)
  · rcases lookup_set found second with ⟨rfl, rfl⟩ | ⟨other', second'⟩
    · rw [orderly.quiet_of_held found taken other first' kind site' held]
      simpa using orderly.behind j l t _ lock different first' found kind site' held
    · exact before_append (orderly.behind j l t u lock different first' second' kind site' held)
        other'.symm seen

theorem step_apart {j l : Nat} {t u : Task} (different : j ≠ l)
    (first : (tasks.set i ⟨k, site, work, paging, p'⟩)[j]? = some t)
    (second : (tasks.set i ⟨k, site, work, paging, p'⟩)[l]? = some u) (kind : t.kind = u.kind)
    (site' : t.site = u.site) :
    Before j l (log ++ seen.toList.map (Mark.mk i)) ∨
      Before l j (log ++ seen.toList.map (Mark.mk i)) := by
  -- A task that acts holds its lock, and all others of its site are before it.
  have behindMover {l : Nat} {u : Task} {act : Act} (acted : seen = some act) (other : i ≠ l)
      (found' : tasks[l]? = some u) (kind : k = u.kind) (site' : site = u.site) :
      Before l i (log ++ seen.toList.map (Mark.mk i)) := by
    obtain ⟨lock, held⟩ := taken.held_of_seen (by rw [acted]; simp)
    exact before_append (orderly.behind i l _ u lock other found found' kind site' held) other seen
  rcases lookup_set found first with ⟨rfl, rfl⟩ | ⟨other, first'⟩
  · rcases lookup_set found second with ⟨rfl, -⟩ | ⟨-, second'⟩
    · exact absurd rfl different
    · cases acted : seen with
      | none => simpa using orderly.apart j l _ u different found second' kind site'
      | some act => exact acted ▸ .inr (behindMover acted different second' kind site')
  · rcases lookup_set found second with ⟨rfl, rfl⟩ | ⟨other', second'⟩
    · cases acted : seen with
      | none => simpa using orderly.apart j l t _ different first' found kind site'
      | some act =>
        exact acted ▸ .inl (behindMover acted different.symm first' kind.symm site'.symm)
    · rcases orderly.apart j l t u different first' second' kind site' with before | before
      · exact .inl (before_append before other.symm seen)
      · exact .inr (before_append before other'.symm seen)

end

theorem step (orderly : Orderly errands start log tasks s)
    (found : tasks[i]? = some ⟨k, site, work, paging, p⟩)
    (taken : Taken remote k site work paging s p seen s' p') :
    Orderly errands start (log ++ seen.toList.map (Mark.mk i))
      (tasks.set i ⟨k, site, work, paging, p'⟩) s' where
  sent := by
    rw [← orderly.sent]
    exact map_set_same found rfl
  guarded := (orderly.owned.step found taken).guarded
  writing := (orderly.owned.step found taken).writing
  progress _ _ looked := orderly.step_progress found taken looked
  serial := orderly.step_serial found taken
  behind _ _ _ _ _ different first second kind' site' held :=
    orderly.step_behind found taken different first second kind' site' held
  apart _ _ _ _ different first second kind' site' :=
    orderly.step_apart found taken different first second kind' site'

end Orderly

end

namespace Orderly

variable {errands : List Errand} {start : Database} {log : List Mark} {tasks : List Task} {σ : Type}
  {s : Shared σ} {i j : Nat} {t u : Task}

theorem once (orderly : Orderly errands start log tasks s) (found : tasks[i]? = some t) :
    (actsOf i log).countP Act.isClosed ≤ 1 := by
  obtain ⟨k, site, work, paging, p⟩ := t
  have progress : Progress s.world.db (actsOf i log) k site work p := orderly.progress i _ found
  cases progress with
  | unseen _ _ noneSeen => simp [noneSeen]
  | fetching _ unclosed => exact (Nat.le_of_eq unclosed).trans (Nat.zero_le 1)
  | ready _ unclosed => exact (Nat.le_of_eq unclosed).trans (Nat.zero_le 1)
  | pending _ _ _ unclosed => exact (Nat.le_of_eq unclosed).trans (Nat.zero_le 1)
  | ended _ once => exact once

theorem committed (orderly : Orderly errands start log tasks s) (found : tasks[i]? = some t)
    {summary : Summary} (result : t.result? = some (.ok summary)) :
    ⟨i, .closed (.ok summary)⟩ ∈ log := by
  have ended := (orderly.progress i t found).of_ended (Task.phase_result result)
  exact (mem_actsOf _).mp (ended.2 summary rfl)

theorem errand_eq {tasks' : List Task}
    (orderly : Orderly (tasks'.map Task.errand) start log tasks s)
    (found : tasks'[i]? = some t) : ∃ t', tasks[i]? = some t' ∧ t'.errand = t.errand := by
  have sent := congrArg (·[i]?) orderly.sent
  simpa only [List.getElem?_map, found, Option.map_some, Option.map_eq_some_iff] using sent

end Orderly

end SiteCache.Sync
