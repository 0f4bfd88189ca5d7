import SiteCache.Query

set_option autoImplicit false

namespace SiteCache.Sync

inductive Action where
  | synchronizeSitePlugins (site : SiteId)
  | synchronizeProducts (site : SiteId) (filter : ProductFilter) (order : ProductSortOrder)
  | resetStoredProducts (site : SiteId)
  | synchronizeCoupons (site : SiteId)
  deriving DecidableEq, Repr

namespace Action

def kind : Action → ResourceKind
  | .synchronizeSitePlugins _ => .sitePlugin
  | .synchronizeProducts .. | .resetStoredProducts _ => .product
  | .synchronizeCoupons _ => .coupon

def site : Action → SiteId
  | .synchronizeSitePlugins site | .synchronizeProducts site _ _ | .resetStoredProducts site
  | .synchronizeCoupons site => site

def name : Action → String
  | .synchronizeSitePlugins _ => "SynchronizeSitePlugins"
  | .synchronizeProducts .. => "SynchronizeProducts"
  | .resetStoredProducts _ => "ResetStoredProducts"
  | .synchronizeCoupons _ => "SynchronizeCoupons"

def describe (a : Action) : String :=
  a.name ++ " \x7b kind: " ++ a.kind.label ++ ", site_id: SiteId(" ++ a.site.text ++ "), .. \x7d"

end Action

def unsupportedText (processor : ResourceKind) (a : Action) : String :=
  "unsupported action " ++ a.name ++ " for " ++ processor.name ++ " processor"

end SiteCache.Sync
