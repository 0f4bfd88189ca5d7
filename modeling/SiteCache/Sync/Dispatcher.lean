import SiteCache.Sync.Action
import SiteCache.Sync.Error

set_option autoImplicit false

namespace SiteCache.Sync

structure Dispatcher (P : Type) where
  held : ResourceKind → Option P

namespace Dispatcher

variable {P : Type}

def empty : Dispatcher P := ⟨fun _ => none⟩

def put (d : Dispatcher P) (kind : ResourceKind) (p : Option P) : Dispatcher P :=
  ⟨fun k => if k = kind then p else d.held k⟩

def register (d : Dispatcher P) (kind : ResourceKind) (p : P) :
    Except SyncError Unit × Dispatcher P :=
  match d.held kind with
  | some _ => (.error (.duplicateProcessor kind), d)
  | none => (.ok (), d.put kind (some p))

def registerAll (d : Dispatcher P) : List (ResourceKind × P) →
    Except SyncError Unit × Dispatcher P
  | [] => (.ok (), d)
  | (kind, p) :: rest =>
    match d.register kind p with
    | (.ok (), d) => d.registerAll rest
    | (.error e, d) => (.error e, d)

def unregister (d : Dispatcher P) (kind : ResourceKind) : Option P × Dispatcher P :=
  (d.held kind, d.put kind none)

def isRegistered (d : Dispatcher P) (kind : ResourceKind) : Bool := (d.held kind).isSome

def kinds (d : Dispatcher P) : List ResourceKind := ResourceKind.all.filter d.isRegistered

def route (d : Dispatcher P) (a : Action) : Outcome P :=
  match d.held a.kind with
  | some p => .ok p
  | none => crash ("no processor registered for " ++ a.kind.name ++ " actions")

def describe (d : Dispatcher P) : String :=
  "Dispatcher \x7b processors: [" ++ ", ".intercalate (d.kinds.map (·.label)) ++ "] \x7d"

end Dispatcher

end SiteCache.Sync
