import SiteCache.Query
import SiteCache.Remote.Error
import SiteCache.Store.Family

set_option autoImplicit false

namespace SiteCache.Remote

/-- A remote answers a request with records or an error, or takes down whoever asked. -/
inductive Reply (α : Type) where
  | records (batch : α)
  | failed (e : RemoteError)
  | crashed (text : String)

structure Service (σ : Type) where
  list : (k : ResourceKind) → SiteId → ListQuery → StateM σ (Reply (List (RecordOf k)))

end SiteCache.Remote
