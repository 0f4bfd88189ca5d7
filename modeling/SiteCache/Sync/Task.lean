import SiteCache.Sync.Request
import SiteCache.Sync.SiteLocks
import SiteCache.Sync.Synchronizer

/-!
A synchronization or reset as a sequence of steps, between which other tasks may take theirs: the
lock of the site, one request after another, the opening of a session, one row after another, the
commit, and the release of what was taken. A task that cannot take its next step has to wait.
-/

set_option autoImplicit false

namespace SiteCache.Sync

open Remote (Service)
open Store (Session SessionM DbError)

inductive Work where
  | synchronize (q : ListQuery) (mode : ReconcileMode)
  | reset
  deriving DecidableEq, Repr

inductive Deletion (k : ResourceKind) where
  | none
  | stale (keys : List (KeyOf k))
  | all

structure Pass (k : ResourceKind) where
  records : List (RecordOf k)
  deletion : Deletion k

namespace Pass

variable {k : ResourceKind}

def ofPlan (plan : Plan (RecordOf k)) : Pass k where
  records := plan.records
  deletion := if plan.mode.deletesStale then .stale plan.keys else .none

def clear : Pass k := ⟨[], .all⟩

end Pass

def Deletion.run {k : ResourceKind} (site : SiteId) (summary : Summary) :
    Deletion k → SessionM Summary
  | .none => pure summary
  | .stale keys => do
    pure { summary with deleted := ← Session.deleteStale (RecordOf k) site keys }
  | .all => do pure { summary with deleted := ← Session.deleteAll (RecordOf k) site }

inductive Phase (k : ResourceKind) where
  | idle
  | waiting (lock : Nat)
  | fetching (lock : Nat) (walk : Walk (RecordOf k))
  | ready (lock : Nat) (pass : Pass k)
  | writing (lock : Nat) (session : Session) (summary : Summary) (rest : List (RecordOf k))
      (deletion : Deletion k)
  | deleting (lock : Nat) (session : Session) (summary : Summary) (deletion : Deletion k)
  | committing (lock : Nat) (session : Session) (summary : Summary)
  | ended (lock : Nat) (result : Outcome Summary)
  | told (lock : Nat) (result : Outcome Summary)
  | unlocked (lock : Nat) (result : Outcome Summary)
  | unhandled (result : Outcome Summary)
  | finished (result : Outcome Summary)

/-- How many more turns a phase can take at most, and how much is left to do in it. -/
def Phase.measure {k : ResourceKind} : Phase k → Nat × Nat
  | .idle => (11, 0)
  | .waiting _ => (10, 0)
  | .fetching _ walk => (9, walk.left)
  | .ready .. => (8, 0)
  | .writing _ _ _ rest _ => (7, rest.length)
  | .deleting .. => (6, 0)
  | .committing .. => (5, 0)
  | .ended .. => (4, 0)
  | .told .. => (3, 0)
  | .unlocked .. => (2, 0)
  | .unhandled _ => (1, 0)
  | .finished _ => (0, 0)

structure Task where
  kind : ResourceKind
  site : SiteId
  work : Work
  paging : Paging
  phase : Phase kind

structure Shared (σ : Type) where
  world : World σ
  writing : Bool
  locks : ResourceKind → SiteLocks
  listened : Bool

namespace Shared

variable {σ : Type}

def modifyLocks (s : Shared σ) (k : ResourceKind) (f : SiteLocks → SiteLocks) : Shared σ :=
  { s with locks := fun j => if j = k then f (s.locks j) else s.locks j }

def abandon (s : Shared σ) (session : Session) : Shared σ :=
  { s with writing := false, world := { s.world with db := s.world.db.rollback session } }

/-- A reset tells nobody how it ended. -/
def tell (s : Shared σ) (t : Task) (result : Outcome Summary) : Shared σ :=
  match t.work with
  | .reset => s
  | .synchronize .. =>
    if s.listened then { s with world := s.world.emit (Event.ofOutcome? t.kind t.site result) }
    else s

end Shared

namespace Task

variable {σ : Type}

def moveTo (t : Task) (phase : Phase t.kind) : Task := { t with phase := phase }

def begun (t : Task) (lock : Nat) : Phase t.kind :=
  match t.work with
  | .synchronize .. => .fetching lock (.start t.paging)
  | .reset => .ready lock .clear

def stored (lock : Nat) {k : ResourceKind} (e : DbError) : Phase k :=
  .ended lock (fail (.storage e))

def fetchStep (remote : Service σ) (s : Shared σ) (t : Task) (lock : Nat)
    (w : Walk (RecordOf t.kind)) (q : ListQuery) (mode : ReconcileMode) :
    Shared σ × Phase t.kind :=
  if w.left = 0 then (s, .ended lock (fail (limitError t.kind t.site t.paging)))
  else
    let (reply, world) := onRemote (remote.list t.kind t.site (w.request q)) s.world
    let s := { s with world := world }
    match w.take reply with
    | .more w => (s, .fetching lock w)
    | .done (.ok records) =>
      (s, .ready lock (.ofPlan (Plan.build t.site records mode)))
    | .done (.error e) => (s, .ended lock (.error e))

def sessionStep {α : Type} (s : Shared σ) (t : Task) (lock : Nat) (session : Session)
    (act : SessionM α) (next : Session → α → Phase t.kind) : Shared σ × Phase t.kind :=
  match act.run session with
  | (.ok a, session) => (s, next session a)
  | (.error e, session) => (s.abandon session, stored lock e)

def commitStep (s : Shared σ) (t : Task) (lock : Nat) (session : Session) (summary : Summary) :
    Shared σ × Phase t.kind :=
  let (r, db) := s.world.db.commit session
  ({ s with writing := false, world := { s.world with db := db } },
    match r with
    | .ok () => .ended lock (.ok summary)
    | .error e => stored lock e)

def step (remote : Service σ) (s : Shared σ) (t : Task) : Option (Shared σ × Phase t.kind) :=
  match t.phase with
  | .idle =>
    let (lock, locks) := (s.locks t.kind).enter t.site
    some (s.modifyLocks t.kind fun _ => locks, .waiting lock)
  | .waiting lock =>
    ((s.locks t.kind).acquire? lock).map fun locks =>
      (s.modifyLocks t.kind fun _ => locks, t.begun lock)
  | .fetching lock w =>
    match t.work with
    | .synchronize q mode => some (fetchStep remote s t lock w q mode)
    | .reset => some (s, .ready lock .clear)
  | .ready lock pass =>
    -- One session at a time: whoever finds one open waits until it is closed.
    if s.writing then none
    else
      match s.world.db.begin with
      | .error e => some (s, stored lock e)
      | .ok session =>
        some ({ s with writing := true },
          .writing lock session Summary.zero pass.records pass.deletion)
  | .writing lock session summary (r :: rest) deletion =>
    some (sessionStep s t lock session (Session.upsert t.site summary r)
      fun session summary => .writing lock session summary rest deletion)
  | .writing lock session summary [] deletion =>
    some (s, .deleting lock session summary deletion)
  | .deleting lock session summary deletion =>
    some (sessionStep s t lock session (deletion.run t.site summary)
      fun session summary => .committing lock session summary)
  | .committing lock session summary => some (commitStep s t lock session summary)
  | .ended lock result => some (s.tell t result, .told lock result)
  | .told lock result => some (s.modifyLocks t.kind (·.release lock), .unlocked lock result)
  -- The lock goes first and the handle second, so that a lock in use always has a handle.
  | .unlocked lock result => some (s.modifyLocks t.kind (·.dropHandle lock), .unhandled result)
  | .unhandled result => some (s.modifyLocks t.kind (·.sweep t.site), .finished result)
  | .finished _ => none

def result? (t : Task) : Option (Outcome Summary) :=
  match t.phase with
  | .finished r => some r
  | _ => none

theorem left_of_receive {R : Type} {w w' : Walk R} {batch : List R}
    (more : w.receive batch = .more w') : w'.left = w.left - 1 := by
  unfold Walk.receive at more
  split at more
  · cases more
  · split at more
    · cases more
    · split at more
      · cases more; rfl
      · cases more

theorem left_of_take {R : Type} {w w' : Walk R} {reply : Remote.Reply (List R)}
    (more : w.take reply = .more w') : w'.left = w.left - 1 := by
  cases reply with
  | records batch => exact left_of_receive more
  | failed e => cases more
  | crashed text => cases more

theorem measure_of_step {remote : Service σ} {s s' : Shared σ} {t : Task} {p : Phase t.kind}
    (taken : t.step remote s = some (s', p)) :
    Prod.Lex (· < ·) (· < ·) p.measure t.phase.measure := by
  obtain ⟨kind, site, work, paging, phase⟩ := t
  cases phase with
  | idle => simp [step] at taken; obtain ⟨-, rfl⟩ := taken; exact .left _ _ (by decide)
  | waiting lock =>
    simp only [step, Option.map_eq_some_iff] at taken
    obtain ⟨locks, -, same⟩ := taken
    cases same
    cases work <;> exact .left _ _ (by decide)
  | fetching lock w =>
    cases work with
    | reset => simp [step] at taken; obtain ⟨-, rfl⟩ := taken; exact .left _ _ (by decide)
    | synchronize q mode =>
      simp only [step, Option.some.injEq, fetchStep] at taken
      split at taken
      · cases taken; exact .left _ _ (by decide)
      · rename_i some_left
        generalize onRemote _ s.world = replied at taken
        obtain ⟨reply, world⟩ := replied
        simp only at taken
        split at taken
        · rename_i w' more
          cases taken
          have left := left_of_take more
          exact .right _ (by omega)
        · cases taken; exact .left _ _ (by decide)
        · cases taken; exact .left _ _ (by decide)
  | ready lock pass =>
    simp only [step] at taken
    split at taken
    · cases taken
    · split at taken <;> (cases taken; exact .left _ _ (by decide))
  | writing lock session summary rest deletion =>
    cases rest with
    | nil => simp [step] at taken; obtain ⟨-, rfl⟩ := taken; exact .left _ _ (by decide)
    | cons r rest =>
      simp only [step, Option.some.injEq, sessionStep] at taken
      split at taken
      · cases taken; exact .right _ (by simp)
      · cases taken; exact .left _ _ (by decide)
  | deleting lock session summary deletion =>
    simp only [step, Option.some.injEq, sessionStep] at taken
    split at taken <;> (cases taken; exact .left _ _ (by decide))
  | committing lock session summary =>
    simp only [step, Option.some.injEq, commitStep, Prod.mk.injEq] at taken
    obtain ⟨-, same⟩ := taken
    split at same <;> (subst same; exact .left _ _ (by decide))
  | ended lock result => simp [step] at taken; obtain ⟨-, rfl⟩ := taken; exact .left _ _ (by decide)
  | told lock result => simp [step] at taken; obtain ⟨-, rfl⟩ := taken; exact .left _ _ (by decide)
  | unlocked lock result =>
    simp [step] at taken; obtain ⟨-, rfl⟩ := taken; exact .left _ _ (by decide)
  | unhandled result => simp [step] at taken; obtain ⟨-, rfl⟩ := taken; exact .left _ _ (by decide)
  | finished result => simp [step] at taken

def runAlone (remote : Service σ) (s : Shared σ) (t : Task) : Shared σ × Task :=
  match _taken : t.step remote s with
  | none => (s, t)
  | some (s, p) => runAlone remote s (t.moveTo p)
termination_by t.phase.measure
decreasing_by exact measure_of_step _taken

end Task

end SiteCache.Sync
