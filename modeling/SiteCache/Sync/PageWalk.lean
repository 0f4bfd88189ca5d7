import SiteCache.Remote.Service
import SiteCache.Sync.Error

set_option autoImplicit false

namespace SiteCache.Sync

open Remote (Service Reply)

inductive Paging where
  | unpaged
  | paged (pageSize maxPages : UInt32)
  deriving DecidableEq, Repr

/-- How far a collection has been fetched: the page to ask for, how many more requests are allowed,
and the records so far. -/
structure Walk (R : Type) where
  page : Option Page
  left : Nat
  got : List R

namespace Walk

variable {R : Type}

def start : Paging → Walk R
  | .unpaged => ⟨none, 1, []⟩
  | .paged size maxPages => ⟨some (.first size), maxPages.toNat, []⟩

def request (w : Walk R) (q : ListQuery) : ListQuery :=
  match w.page with
  | none => q
  | some page => q.atPage page

inductive Next (R : Type) where
  | more (w : Walk R)
  | done (r : Outcome (List R))

def receive (w : Walk R) (batch : List R) : Next R :=
  match w.page with
  | none => .done (.ok (w.got ++ batch))
  | some page =>
    if batch.length < page.size.toNat then .done (.ok (w.got ++ batch))
    else
      match page.next? with
      | some next => .more ⟨some next, w.left - 1, w.got ++ batch⟩
      | none => .done (crash "attempt to add with overflow")

def take (w : Walk R) : Reply (List R) → Next R
  | .records batch => w.receive batch
  | .failed e => .done (fail (.remote e))
  | .crashed text => .done (crash text)

end Walk

variable {σ : Type}

def walk (remote : Service σ) (k : ResourceKind) (site : SiteId) (q : ListQuery)
    (limit : SyncError) : Nat → Walk (RecordOf k) → StateM σ (Outcome (List (RecordOf k)))
  | 0, _ => pure (fail limit)
  | fuel + 1, w =>
    if w.left = 0 then pure (fail limit)
    else do
      match w.take (← remote.list k site (w.request q)) with
      | .more w => walk remote k site q limit fuel w
      | .done r => pure r

def limitError (k : ResourceKind) (site : SiteId) : Paging → SyncError
  | .unpaged => .pageLimitExceeded k site 0
  | .paged _ maxPages => .pageLimitExceeded k site maxPages

def fetchAll (remote : Service σ) (k : ResourceKind) (paging : Paging) (site : SiteId)
    (q : ListQuery) : StateM σ (Outcome (List (RecordOf k))) :=
  let start : Walk (RecordOf k) := .start paging
  walk remote k site q (limitError k site paging) (start.left + 1) start

end SiteCache.Sync
