import SiteCache.Store.Table

set_option autoImplicit false

namespace SiteCache

abbrev RecordOf : ResourceKind → Type
  | .sitePlugin => SitePlugin
  | .product => Product
  | .coupon => Coupon

abbrev KeyOf : ResourceKind → Type
  | .sitePlugin => String
  | .product => Int64
  | .coupon => Int64

instance (k : ResourceKind) : DecidableEq (KeyOf k) :=
  match k with
  | .sitePlugin => inferInstanceAs (DecidableEq String)
  | .product => inferInstanceAs (DecidableEq Int64)
  | .coupon => inferInstanceAs (DecidableEq Int64)

instance (k : ResourceKind) : NaturalKey (KeyOf k) :=
  match k with
  | .sitePlugin => inferInstanceAs (NaturalKey String)
  | .product => inferInstanceAs (NaturalKey Int64)
  | .coupon => inferInstanceAs (NaturalKey Int64)

instance (k : ResourceKind) : Store.Cached (RecordOf k) (KeyOf k) :=
  match k with
  | .sitePlugin => inferInstanceAs (Store.Cached SitePlugin String)
  | .product => inferInstanceAs (Store.Cached Product Int64)
  | .coupon => inferInstanceAs (Store.Cached Coupon Int64)

end SiteCache
