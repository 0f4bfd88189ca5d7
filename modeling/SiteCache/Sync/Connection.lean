import SiteCache.Remote.Http
import SiteCache.Sync.Error

set_option autoImplicit false

namespace SiteCache.Sync

def connect (baseUrl userAgent : String) : Except SyncError Url := do
  let base ← (Url.read baseUrl).mapError fun e => .invalidUrl e.message
  if userAgent.toList.all Remote.isHeaderChar then pure base
  else .error (.remote (.network "builder error"))

end SiteCache.Sync
