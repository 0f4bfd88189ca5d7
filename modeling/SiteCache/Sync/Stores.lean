import SiteCache.Sync.Action
import SiteCache.Sync.Task

set_option autoImplicit false

namespace SiteCache.Sync

open Remote (Service)

structure Spawned (C : Type) where
  completion : C
  task : Task
  pending : Bool

structure Stores (σ C : Type) where
  paging : Paging
  shared : Shared σ
  queue : CallbackQueue C
  spawned : List (Spawned C)

namespace Stores

variable {σ C : Type}

def pagingOf (s : Stores σ C) : ResourceKind → Paging
  | .sitePlugin => .unpaged
  | .product | .coupon => s.paging

def workOf : Action → Work
  | .synchronizeSitePlugins _ | .synchronizeCoupons _ => .synchronize .unpaged .replace
  | .synchronizeProducts _ filter order =>
    .synchronize (productQuery filter order) (productMode filter)
  | .resetStoredProducts _ => .reset

def taskOf (s : Stores σ C) (a : Action) : Task :=
  ⟨a.kind, a.site, workOf a, s.pagingOf a.kind, .idle⟩

def spawn (s : Stores σ C) (a : Action) (completion : C) : Stores σ C :=
  { s with
    queue := s.queue.clone
    spawned := s.spawned ++ [⟨completion, s.taskOf a, true⟩] }

def onAction (s : Stores σ C) (k : ResourceKind) (a : Action) (completion : C) :
    Outcome (Stores σ C) :=
  if a.kind = k then .ok (s.spawn a completion) else crash (unsupportedText k a)

def conclude (queue : CallbackQueue C) (w : Spawned C) (result : Outcome Summary) :
    CallbackQueue C :=
  let queue :=
    match result with
    | .ok summary => queue.deliver ⟨w.completion, .ok summary⟩
    | .error (.error e) => queue.deliver ⟨w.completion, .error e⟩
    | .error (.crash _) => queue
  queue.dropHandles 1

def step (remote : Service σ) (s : Stores σ C) (i : Nat) : Option (Stores σ C) := do
  let w ← s.spawned[i]?
  match w.task.step remote s.shared with
  | some (shared, phase) =>
    some { s with
      shared := shared
      spawned := s.spawned.set i { w with task := w.task.moveTo phase } }
  | none =>
    let result ← w.task.result?
    if w.pending then
      some { s with
        queue := conclude s.queue w result
        spawned := s.spawned.set i { w with pending := false } }
    else none

/-- Takes steps in the order of a schedule; a step that cannot be taken is left out. -/
def run (remote : Service σ) (s : Stores σ C) (schedule : List Nat) : Stores σ C :=
  schedule.foldl (fun s i => (s.step remote i).getD s) s

def complete (remote : Service σ) (s : Stores σ C) (w : Spawned C) : Stores σ C :=
  let (shared, task) := w.task.runAlone remote s.shared
  let s := { s with shared := shared }
  match task.result? with
  | some result => { s with queue := conclude s.queue w result }
  | none => { s with spawned := s.spawned ++ [{ w with task := task }] }

def completeNext (remote : Service σ) (s : Stores σ C) : Stores σ C :=
  match s.spawned with
  | [] => s
  | w :: rest => complete remote { s with spawned := rest } w

def settle (remote : Service σ) (s : Stores σ C) : Stores σ C :=
  s.spawned.foldl (fun s _ => s.completeNext remote) s

def awaitJob (remote : Service σ) (s : Stores σ C) : Stores σ C :=
  s.spawned.foldl (fun s _ => if s.queue.waiting.isEmpty then s.completeNext remote else s) s

def call {α : Type} (s : Stores σ C) (act : StateM (World σ) α) : α × Stores σ C :=
  let (a, world) := act s.shared.world
  let kept := if s.shared.listened then world else { world with events := s.shared.world.events }
  (a, { s with shared := { s.shared with world := kept } })

end Stores

end SiteCache.Sync
