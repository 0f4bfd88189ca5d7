import SiteCache.Sync.Error
import SiteCache.Summary

/-!
Where completions run. An inline queue runs each one as it is delivered; otherwise they wait, in
order of delivery, for a runner. When the runner is gone the waiting ones are lost, and later ones
run as they are delivered.
-/

set_option autoImplicit false

namespace SiteCache.Sync

abbrev SyncResult := Except SyncError Summary

structure Job (C : Type) where
  completion : C
  result : SyncResult
  deriving Repr

structure CallbackQueue (C : Type) where
  inline : Bool
  hasRunner : Bool
  handles : Nat
  waiting : List (Job C)
  ran : List (Job C)

namespace CallbackQueue

variable {C : Type}

def immediate : CallbackQueue C := ⟨true, false, 1, [], []⟩

def queued : CallbackQueue C := ⟨false, true, 1, [], []⟩

def describe (q : CallbackQueue C) : String :=
  if q.inline then "CallbackQueue::Inline" else "CallbackQueue::Queue"

def runNow (q : CallbackQueue C) (job : Job C) : CallbackQueue C :=
  { q with ran := q.ran ++ [job] }

def deliver (q : CallbackQueue C) (job : Job C) : CallbackQueue C :=
  if q.hasRunner then { q with waiting := q.waiting ++ [job] } else q.runNow job

def clone (q : CallbackQueue C) : CallbackQueue C := { q with handles := q.handles + 1 }

def dropHandles (q : CallbackQueue C) (count : Nat) : CallbackQueue C :=
  { q with handles := q.handles - count }

def dropRunner (q : CallbackQueue C) : CallbackQueue C :=
  { q with hasRunner := false, waiting := [] }

/-- Runs the oldest waiting job. `false` means that there will never be one, and `none` that one
may still come. -/
def runNext (q : CallbackQueue C) : Option Bool × CallbackQueue C :=
  match q.waiting with
  | job :: rest => (some true, { q with waiting := rest, ran := q.ran ++ [job] })
  | [] => (if q.handles = 0 then some false else none, q)

def runPending (q : CallbackQueue C) : Nat × CallbackQueue C :=
  (q.waiting.length, { q with waiting := [], ran := q.ran ++ q.waiting })

/-- Runs every waiting job and gives the runner up, once no handle is left; `none` means that one
is. -/
def run? (q : CallbackQueue C) : Option (CallbackQueue C) :=
  if q.handles = 0 then some q.runPending.2.dropRunner else none

end CallbackQueue

end SiteCache.Sync
