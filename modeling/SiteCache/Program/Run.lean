import SiteCache.Config.Loading
import SiteCache.Program.Arguments
import SiteCache.Program.Ending
import SiteCache.Program.Report
import SiteCache.Program.Rows
import SiteCache.Store.Listing
import SiteCache.Sync.Connection
import SiteCache.Sync.Stores

set_option autoImplicit false

namespace SiteCache.Program

open Store (Database FileContent)
open Sync (Action Stores SyncError)

structure Machine (σ : Type) where
  files : Files FileContent
  remote : σ
  output : List String := []

abbrev CommandM (σ α : Type) := ExceptT Complaint (StateM (Machine σ)) α

variable {σ : Type}

def print (lines : List String) : CommandM σ Unit :=
  modify fun m => { m with output := m.output ++ lines }

def orComplain {ε α : Type} (complaint : ε → Complaint) (r : Except ε α) : CommandM σ α :=
  ExceptT.mk (pure (r.mapError complaint))

def complaintOf (e : SyncError) : Complaint where
  message := e.message
  cause :=
    match e with
    | .remote error => some error.message
    | .storage error => some error.message
    | _ => none

def openDatabase (path : String) : CommandM σ Database := do
  let m ← get
  let files ← match (Path.parent? path).filter (· ≠ "") with
    | none => pure m.files
    | some parent =>
      orComplain (fun e => ⟨"creating " ++ parent, some e.message⟩)
        (m.files.createDirectories parent)
  set { m with files := files }
  let db ← orComplain (fun e => ⟨"opening " ++ path, some e.message⟩)
    (Database.openFile files path)
  set { m with files := Database.closeFile files path db }
  pure db

def keepDatabase (path : String) (db : Database) : CommandM σ Unit :=
  modify fun m => { m with files := Database.closeFile m.files path db }

def started (paging : Sync.Paging) (remote : σ) (db : Database) (actions : List Action) :
    Stores σ Action :=
  let idle : Stores σ Action :=
    ⟨paging, ⟨⟨remote, db, []⟩, false, fun _ => .empty, false⟩, .queued, []⟩
  let spawned := actions.foldl (fun s a => s.spawn a a) idle
  { spawned with queue := spawned.queue.dropHandles 1 }

def toldBy (queue : Sync.CallbackQueue Action) : List Told :=
  queue.runPending.2.ran.map fun job => ⟨job.completion.kind, job.completion.site, job.result⟩

def actionFor (filter : ProductFilter) (order : ProductSortOrder) (site : SiteId) :
    ResourceKind → Action
  | .sitePlugin => .synchronizeSitePlugins site
  | .product => .synchronizeProducts site filter order
  | .coupon => .synchronizeCoupons site

def actionsFor (sites : List SiteId) (kinds : List ResourceKind) (filter : ProductFilter)
    (order : ProductSortOrder) : List Action :=
  sites.flatMap fun site => kinds.map (actionFor filter order site)

/-- How started actions take turns until none of them has anything left to do. -/
abbrev Drive (σ : Type) := Remote.Service σ → Stores σ Action → Stores σ Action

def report (expected : Nat) (told : List Told) : CommandM σ Unit := do
  print (told.map Told.line)
  match complaint? expected told with
  | none => pure ()
  | some message => throw ⟨message, none⟩

def runActions (drive : Drive σ) (vars : Variables) (transport : Remote.Transport σ) (c : Config)
    (actions : List Action) : CommandM σ Unit := do
  let path := c.databaseFile vars
  let db ← openDatabase path
  let base ← orComplain complaintOf (Sync.connect c.baseUrl c.userAgent)
  let stores := started c.paging (← get).remote db actions
  let stores := drive (Remote.httpService base transport) stores
  let world := stores.shared.world
  modify fun m => { m with remote := world.remote }
  keepDatabase path world.db
  report actions.length (toldBy stores.queue)

def chosenSites (c : Config) (named : List SiteId) : List SiteId :=
  if named.isEmpty then c.sites else named

def chosenKinds (resource : Option ResourceKind) : List ResourceKind :=
  resource.elim ResourceKind.all fun k => [k]

def syncSites (drive : Drive σ) (vars : Variables) (transport : Remote.Transport σ) (c : Config)
    (named : List SiteId) (resource : Option ResourceKind) (filter : ProductFilter)
    (order : ProductSortOrder) : CommandM σ Unit := do
  let sites := chosenSites c named
  if sites.isEmpty then
    throw ⟨"no site to synchronize; pass --site or set sync.site_ids", none⟩
  runActions drive vars transport c (actionsFor sites (chosenKinds resource) filter order)

def list (vars : Variables) (c : Config) (site : SiteId) (k : ResourceKind) :
    CommandM σ Unit := do
  let db ← openDatabase (c.databaseFile vars)
  let records ← orComplain (fun e => ⟨e.message, none⟩) (db.list (RecordOf k) site)
  print (records.map (row k))

def command (vars : Variables) (transport : Remote.Transport σ) (configPath : String) (c : Config) :
    Command → CommandM σ Unit
  | .sync named resource filter order =>
    syncSites Stores.settle vars transport c named resource filter order
  | .list site resource => list vars c site resource
  | .resetProducts site =>
    runActions Stores.settle vars transport c [.resetStoredProducts site]
  | .config => do
    print ["# " ++ configPath]
    let text ← orComplain (fun reason => ⟨reason, none⟩) c.toText
    print (textLines text).dropLast

def Invocation.configPath (i : Invocation) (vars : Variables) : String :=
  i.config.getD (Config.defaultPath vars)

def Invocation.configuration (i : Invocation) (vars : Variables) (files : Files FileContent) :
    Except SyncError Config :=
  (Config.load files vars (i.configPath vars)).map fun c =>
    { c with databasePath := i.database.or c.databasePath }

def invoke (vars : Variables) (transport : Remote.Transport σ) (i : Invocation) :
    CommandM σ Unit := do
  let c ← orComplain (fun e => ⟨"loading configuration", some e.message⟩)
    (i.configuration vars (← get).files)
  command vars transport (i.configPath vars) c i.command

def run (vars : Variables) (transport : Remote.Transport σ) (arguments : List String)
    (files : Files FileContent) (remote : σ) : Ending × Machine σ :=
  match Invocation.read arguments with
  | .error stop => (.ofStop stop, ⟨files, remote, []⟩)
  | .ok i =>
    let (r, m) := (invoke vars transport i).run ⟨files, remote, []⟩
    (.of m.output r, m)

end SiteCache.Program
