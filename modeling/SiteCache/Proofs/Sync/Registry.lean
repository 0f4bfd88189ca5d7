import SiteCache.Proofs.Sync.Unblocking

set_option autoImplicit false

namespace SiteCache.Sync

open Remote (Service)
open Store

structure Crowd (σ : Type) where
  tasks : List Task
  shared : Shared σ

/-- A task arrives, takes its next step, or is cut short in its work, or the world changes. -/
inductive Occurrence (σ : Type) where
  | arrive (kind : ResourceKind) (site : SiteId) (work : Work) (paging : Paging)
  | step (i : Nat)
  | cut (i : Nat)
  | world (change : World σ → World σ)

/-- A task that is cut short gives up its session, and then lets go of its lock as others do. Nobody
is cut short who waits for a lock. -/
def Task.cut? {σ : Type} (s : Shared σ) (t : Task) : Option (Shared σ × Phase t.kind) :=
  match t.phase with
  | .fetching lock _ | .ready lock _ => some (s, .told lock (crash "task was cancelled"))
  | .writing lock session .. | .deleting lock session .. | .committing lock session _ =>
    some (s.abandon session, .told lock (crash "task was cancelled"))
  | _ => none

namespace Crowd

variable {σ : Type}

def opening (world : World σ) (listened : Bool) : Crowd σ :=
  ⟨[], world, false, fun _ => .empty, listened⟩

-- What cannot happen to a task leaves everything as it was.
def move (c : Crowd σ) (i : Nat) (act : (t : Task) → Option (Shared σ × Phase t.kind)) : Crowd σ :=
  match c.tasks[i]? with
  | none => c
  | some t =>
    match act t with
    | none => c
    | some (shared, phase) => ⟨c.tasks.set i (t.moveTo phase), shared⟩

def meet (remote : Service σ) (c : Crowd σ) : Occurrence σ → Crowd σ
  | .arrive kind site work paging =>
    { c with tasks := c.tasks ++ [⟨kind, site, work, paging, .idle⟩] }
  | .step i => c.move i fun t => t.step remote c.shared
  | .cut i => c.move i fun t => t.cut? c.shared
  | .world change => { c with shared.world := change c.shared.world }

def after (remote : Service σ) (c : Crowd σ) (occurrences : List (Occurrence σ)) : Crowd σ :=
  occurrences.foldl (meet remote) c

end Crowd

namespace Owned

variable {σ : Type} {remote : Service σ} {k : ResourceKind} {site : SiteId} {work : Work}
  {paging : Paging} {s s' : Shared σ} {p p' : Phase k} {tasks : List Task} {i : Nat}

theorem cut (owned : Owned tasks s) (found : tasks[i]? = some ⟨k, site, work, paging, p⟩)
    (stopped : (⟨k, site, work, paging, p⟩ : Task).cut? s = some (s', p')) :
    Owned (tasks.set i ⟨k, site, work, paging, p'⟩) s' := by
  -- The task holds its lock before and after; an open session was its own.
  have keeps {lock : Nat} {result : Outcome Summary} (held : p.held? = some lock) (j) :
      Guarded j (tasks.set i ⟨k, site, work, paging, .told lock result⟩) (s.locks j) := by
    by_cases same : j = k
    · subst same
      exact (owned.guarded j).keep found held rfl
    · exact (owned.guarded j).other found (Ne.symm same) (Ne.symm same)
  have counts := owned.writing
  have fewer := countP_set_add (p := Task.writes) found ⟨k, site, work, paging, p'⟩
  cases p with
  | fetching lock w | ready lock pass =>
    cases stopped
    exact ⟨keeps rfl, by simpa [Task.writes, Phase.pending?] using fewer.trans counts⟩
  | writing lock session summary rest deletion | deleting lock session summary deletion
  | committing lock session summary =>
    cases stopped
    have opened := owned.writing_of_writes found rfl
    refine ⟨keeps rfl, ?_⟩
    rw [opened] at counts
    simp only [Task.writes, Phase.pending?, Option.isSome_some, Option.isSome_none, Shared.abandon,
      Bool.toNat_true, Bool.toNat_false] at fewer counts ⊢
    omega
  | _ => cases stopped

end Owned

namespace Crowd

variable {σ : Type} {remote : Service σ} {c : Crowd σ}

theorem owned_move (owned : Owned c.tasks c.shared) {i : Nat}
    {act : (t : Task) → Option (Shared σ × Phase t.kind)}
    (keeps : ∀ t s' p', c.tasks[i]? = some t → act t = some (s', p') →
      Owned (c.tasks.set i (t.moveTo p')) s') :
    Owned (c.move i act).tasks (c.move i act).shared := by
  unfold move
  cases found : c.tasks[i]? with
  | none => exact owned
  | some t =>
    dsimp only
    cases moved : act t with
    | none => exact owned
    | some next => exact keeps t next.1 next.2 found moved

theorem owned_meet (owned : Owned c.tasks c.shared) (occurrence : Occurrence σ) :
    Owned (c.meet remote occurrence).tasks (c.meet remote occurrence).shared := by
  cases occurrence with
  | arrive kind site work paging => exact owned.join rfl
  | step i =>
    exact owned_move owned fun t s' p' found taken => owned.step found (taken_of_step taken)
  | cut i => exact owned_move owned fun t s' p' found stopped => owned.cut found stopped
  | world change => exact ⟨owned.guarded, owned.writing⟩

theorem owned_after (remote : Service σ) (owned : Owned c.tasks c.shared)
    (occurrences : List (Occurrence σ)) :
    Owned (c.after remote occurrences).tasks (c.after remote occurrences).shared := by
  induction occurrences generalizing c with
  | nil => exact owned
  | cons occurrence rest ih => exact ih (owned_meet owned occurrence)

end Crowd

/-- The map of locks says of every site what the tasks do there. -/
structure Registered {σ : Type} (tasks : List Task) (s : Shared σ) : Prop where
  current : ∀ t ∈ tasks, ∀ lock, t.phase.handle? = some lock →
    (s.locks t.kind).entry t.site = some lock
  counted : ∀ k lock, ((s.locks k).state lock).handles = tasks.countP (·.uses k lock)
  single : ∀ (i j : Nat) (t u : Task), tasks[i]? = some t → tasks[j]? = some u →
    t.kind = u.kind → t.site = u.site → t.phase.held?.isSome → u.phase.held?.isSome → i = j
  forgotten : ∀ k site, (∀ t ∈ tasks, t.kind = k → t.site = site → t.phase.engaged = false) →
    (s.locks k).entry site = none

theorem occurrences_registered {σ : Type} (remote : Service σ) (world : World σ) (listened : Bool)
    (occurrences : List (Occurrence σ)) :
    Registered ((Crowd.opening world listened).after remote occurrences).tasks
      ((Crowd.opening world listened).after remote occurrences).shared := by
  have opening : Owned (Crowd.opening world listened).tasks (Crowd.opening world listened).shared :=
    .idle (fun _ member => nomatch member) (fun _ => rfl) rfl
  have owned := Crowd.owned_after remote opening occurrences
  generalize (Crowd.opening world listened).after remote occurrences = c at owned
  constructor
  case current =>
    exact fun t member lock handle => (owned.guarded t.kind).known t member rfl lock handle
  case counted => exact fun k lock => ((owned.guarded k).counted lock).symm
  case single =>
    intro i j t u first second kind site held held'
    obtain ⟨m, held⟩ := Option.isSome_iff_exists.mp held
    obtain ⟨n, held'⟩ := Option.isSome_iff_exists.mp held'
    exact (owned.guarded t.kind).exclusive first second rfl kind.symm site held held'
  case forgotten => exact fun k site far => owned.entry_of_far far

-- Three tasks for one site. The second asks for the lock while the first lets go of it, the third
-- comes when the entry has gone.
def throng : List (Occurrence Remote.Script) :=
  [.arrive .coupon ⟨7⟩ .reset .unpaged, .step 0, .step 0, .cut 0, .step 0, .step 0,
    .arrive .coupon ⟨7⟩ .reset .unpaged, .step 1, .step 0, .step 1, .cut 1, .step 1, .step 1,
    .step 1, .arrive .coupon ⟨7⟩ .reset .unpaged, .step 2]

def locksSeen (count : Nat) : Option Nat × List (Option Nat) :=
  let c := (Crowd.opening couponWorld false).after Remote.Script.service (throng.take count)
  ((c.shared.locks .coupon).entry ⟨7⟩, c.tasks.map (·.phase.handle?))

theorem throng_registered :
    locksSeen 9 = (some 0, [none, some 0]) ∧ locksSeen 14 = (none, [none, none]) ∧
      locksSeen 16 = (some 1, [none, none, some 1]) ∧
      Registered ((Crowd.opening couponWorld false).after Remote.Script.service throng).tasks
        ((Crowd.opening couponWorld false).after Remote.Script.service throng).shared :=
  ⟨rfl, rfl, rfl, occurrences_registered _ _ _ _⟩

end SiteCache.Sync
