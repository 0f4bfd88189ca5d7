import SiteCache.Record
import SiteCache.Time.Instant

set_option autoImplicit false

namespace SiteCache

inductive DiscountType where
  | percent
  | fixedCart
  | fixedProduct
  | other
  deriving DecidableEq, Repr

namespace DiscountType

def all : List DiscountType := [.percent, .fixedCart, .fixedProduct, .other]

def name : DiscountType → String
  | .percent => "percent"
  | .fixedCart => "fixed_cart"
  | .fixedProduct => "fixed_product"
  | .other => "other"

def label : DiscountType → String
  | .percent => "Percent"
  | .fixedCart => "FixedCart"
  | .fixedProduct => "FixedProduct"
  | .other => "Other"

def ofName? (s : String) : Option DiscountType := all.find? (·.name == s)

def ofName (s : String) : DiscountType := (ofName? s).getD .other

end DiscountType

structure Coupon where
  site : SiteId
  couponId : Int64
  code : String
  amount : String
  discountType : DiscountType
  description : String
  dateExpires : Option Time.Instant
  usageCount : Int64
  usageLimit : Option Int64
  individualUse : Bool
  freeShipping : Bool
  dateModified : Time.Instant
  deriving DecidableEq

def Coupon.new (site : SiteId) (couponId : Int64) (code : String) (now : Time.Instant) :
    Coupon where
  site := site
  couponId := couponId
  code := code
  amount := "0"
  discountType := .fixedCart
  description := ""
  dateExpires := none
  usageCount := 0
  usageLimit := none
  individualUse := false
  freeShipping := false
  dateModified := now

def Coupon.isExpired (c : Coupon) (now : Time.Instant) : Bool :=
  c.dateExpires.any (·.le now)

def Coupon.isExhausted (c : Coupon) : Bool :=
  c.usageLimit.any (· ≤ c.usageCount)

instance : Resource Coupon Int64 where
  kind := .coupon
  site c := c.site
  key c := c.couponId
  rekey c site id := { c with site := site, couponId := id }
  site_rekey _ _ _ := rfl
  key_rekey _ _ _ := rfl
  rekey_self _ := rfl
  rekey_rekey _ _ _ _ _ := rfl

end SiteCache
