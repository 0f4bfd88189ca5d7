import SiteCache.Site

/-!
Locks for sites, made when first asked for and forgotten when nobody uses them. A map leads from a
site to its lock. Whoever wants the lock first takes a handle on it, so that a lock that is wanted
stays in the map; after letting go of the handle one looks whether the lock is still of use. The
map's own handle is not counted.
-/

set_option autoImplicit false

namespace SiteCache.Sync

structure LockState where
  handles : Nat
  held : Bool
  deriving DecidableEq, Repr

structure SiteLocks where
  next : Nat
  entry : SiteId → Option Nat
  state : Nat → LockState

namespace SiteLocks

def empty : SiteLocks := ⟨0, fun _ => none, fun _ => ⟨0, false⟩⟩

def setEntry (l : SiteLocks) (site : SiteId) (lock : Option Nat) : SiteLocks :=
  { l with entry := fun s => if s = site then lock else l.entry s }

def modifyState (l : SiteLocks) (lock : Nat) (f : LockState → LockState) : SiteLocks :=
  { l with state := fun i => if i = lock then f (l.state i) else l.state i }

def enter (l : SiteLocks) (site : SiteId) : Nat × SiteLocks :=
  match l.entry site with
  | some lock => (lock, l.modifyState lock fun s => { s with handles := s.handles + 1 })
  | none =>
    let made : SiteLocks := { l with next := l.next + 1 }
    (l.next, (made.setEntry site (some l.next)).modifyState l.next fun _ => ⟨1, false⟩)

def acquire? (l : SiteLocks) (lock : Nat) : Option SiteLocks :=
  if (l.state lock).held then none
  else some (l.modifyState lock fun s => { s with held := true })

def release (l : SiteLocks) (lock : Nat) : SiteLocks :=
  l.modifyState lock fun s => { s with held := false }

def dropHandle (l : SiteLocks) (lock : Nat) : SiteLocks :=
  l.modifyState lock fun s => { s with handles := s.handles - 1 }

/-- Forgets the lock of a site that nobody but the map refers to. -/
def sweep (l : SiteLocks) (site : SiteId) : SiteLocks :=
  match l.entry site with
  | some lock => if (l.state lock).handles = 0 then l.setEntry site none else l
  | none => l

end SiteLocks

end SiteCache.Sync
