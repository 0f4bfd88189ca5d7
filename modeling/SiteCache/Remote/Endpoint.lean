import SiteCache.Site
import SiteCache.Url.Reading

set_option autoImplicit false

namespace SiteCache.Remote

structure Collection where
  space : String
  path : String
  deriving DecidableEq, Repr

def Collection.of : ResourceKind → Collection
  | .sitePlugin => ⟨"wp/v2", "plugins"⟩
  | .product => ⟨"wc/v3", "products"⟩
  | .coupon => ⟨"wc/v3", "coupons"⟩

def Collection.segments (c : Collection) : List String :=
  (Text.splitOn (· = '/') c.space.toList).map String.ofList ++ [c.path]

def endpoint (base : Url) (site : SiteId) (c : Collection) (q : ListQuery) : Url :=
  (base.appendSegments (["sites", site.text] ++ c.segments)).appendPairs q.toPairs

end SiteCache.Remote
