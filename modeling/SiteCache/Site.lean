import SiteCache.Error
import SiteCache.Text.Lowercase

set_option autoImplicit false

namespace SiteCache

structure SiteId where
  value : Int64
  deriving DecidableEq, Repr, Inhabited

def SiteId.text (site : SiteId) : String := Text.intText site.value.toInt

inductive ResourceKind where
  | sitePlugin
  | product
  | coupon
  deriving DecidableEq, Repr

namespace ResourceKind

def all : List ResourceKind := [.sitePlugin, .product, .coupon]

def name : ResourceKind → String
  | .sitePlugin => "site_plugin"
  | .product => "product"
  | .coupon => "coupon"

def label : ResourceKind → String
  | .sitePlugin => "SitePlugin"
  | .product => "Product"
  | .coupon => "Coupon"

def index : ResourceKind → Nat
  | .sitePlugin => 0
  | .product => 1
  | .coupon => 2

def ofName? (s : String) : Option ResourceKind := all.find? (·.name == s)

def parse (s : String) : Except DomainError ResourceKind :=
  let lowered := Text.lowercase s
  if lowered ∈ ["site_plugin", "site_plugins", "plugin", "plugins"] then .ok .sitePlugin
  else if lowered ∈ ["product", "products"] then .ok .product
  else if lowered ∈ ["coupon", "coupons"] then .ok .coupon
  else .error (.unknownResourceKind lowered)

end ResourceKind

end SiteCache
