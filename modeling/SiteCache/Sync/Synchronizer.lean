import SiteCache.Store.Database
import SiteCache.Sync.Callback
import SiteCache.Sync.PageWalk

set_option autoImplicit false

namespace SiteCache.Sync

open Remote (Service)
open Store (Database DbError Session SessionM Cached)

inductive Event where
  | synced (kind : ResourceKind) (site : SiteId) (summary : Summary)
  | failed (kind : ResourceKind) (site : SiteId) (message : String) (retryable : Bool)
  deriving DecidableEq, Repr

namespace Event

def kind : Event → ResourceKind
  | .synced kind _ _ | .failed kind _ _ _ => kind

def site : Event → SiteId
  | .synced _ site _ | .failed _ site _ _ => site

def ofOutcome? (kind : ResourceKind) (site : SiteId) : Outcome Summary → Option Event
  | .ok summary => some (.synced kind site summary)
  | .error (.error e) => some (.failed kind site e.message e.isRetryable)
  | .error (.crash _) => none

end Event

/-- Runs a session on the store and commits it, unless it fails. -/
def inSession {α : Type} (work : SessionM α) (db : Database) : Except DbError α × Database :=
  match db.begin with
  | .error e => (.error e, db)
  | .ok session =>
    match work.run session with
    | (.error e, session) => (.error e, db.rollback session)
    | (.ok a, session) =>
      match db.commit session with
      | (.error e, db) => (.error e, db)
      | (.ok (), db) => (.ok a, db)

structure World (σ : Type) where
  remote : σ
  db : Database
  events : List Event

variable {σ : Type}

def World.emit (w : World σ) (event : Option Event) : World σ :=
  { w with events := w.events ++ event.toList }

def onRemote {α : Type} (act : StateM σ α) : StateM (World σ) α := fun w =>
  let (a, remote) := act w.remote
  (a, { w with remote := remote })

def onStore {α : Type} (work : SessionM α) : StateM (World σ) (Outcome α) := fun w =>
  let (r, db) := inSession work w.db
  (r.mapError fun e => .error (.storage e), { w with db := db })

def fetchAndApply (remote : Service σ) (k : ResourceKind) (paging : Paging) (site : SiteId)
    (q : ListQuery) (mode : ReconcileMode) : StateM (World σ) (Outcome Summary) := do
  match ← onRemote (fetchAll remote k paging site q) with
  | .error e => pure (.error e)
  | .ok records => onStore (Session.apply (Plan.build site records mode))

def synchronize (remote : Service σ) (k : ResourceKind) (paging : Paging) (site : SiteId)
    (q : ListQuery) (mode : ReconcileMode) : StateM (World σ) (Outcome Summary) := do
  let result ← fetchAndApply remote k paging site q mode
  modify (·.emit (Event.ofOutcome? k site result))
  pure result

def reset (k : ResourceKind) (site : SiteId) : StateM (World σ) (Outcome Summary) := do
  let deleted ← onStore (Session.deleteAll (RecordOf k) site)
  pure (deleted.map fun n => { Summary.zero with deleted := n })

end SiteCache.Sync
