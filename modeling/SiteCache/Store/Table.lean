import SiteCache.Coupon
import SiteCache.Plugin
import SiteCache.Product
import SiteCache.Store.Collation
import SiteCache.Store.Error

set_option autoImplicit false

namespace SiteCache.Store

/-- A cell overwritten from outside with a text that its column cannot hold. -/
structure Damage where
  column : String
  value : String
  choice : String
  deriving DecidableEq, Repr

structure Row (R : Type) where
  id : RowId
  record : R
  damage : List Damage
  deriving DecidableEq

def Row.read {R : Type} (row : Row R) : Except DbError R :=
  match row.damage with
  | [] => .ok row.record
  | d :: _ => .error (EngineError.undecodable d.column d.value d.choice).toDbError

structure Contents where
  plugins : List (Row SitePlugin)
  products : List (Row Product)
  coupons : List (Row Coupon)

def Contents.empty : Contents := ⟨[], [], []⟩

class Cached (R : Type) (K : outParam Type) [DecidableEq K] [NaturalKey K] extends
    Resource R K where
  table : String
  keyColumn : String
  rows : Contents → List (Row R)
  setRows : Contents → List (Row R) → Contents
  listedBefore : R → R → Bool
  rows_setRows : ∀ c rs, rows (setRows c rs) = rs
  setRows_rows : ∀ c, setRows c (rows c) = c
  setRows_setRows : ∀ c rs rs', setRows (setRows c rs) rs' = setRows c rs'

def beforeByText (a b : String) (i j : Int64) : Bool :=
  match compareNoCase a b with
  | .lt => true
  | .eq => i ≤ j
  | .gt => false

instance : Cached SitePlugin String where
  table := "site_plugins"
  keyColumn := "name"
  rows c := c.plugins
  setRows c rs := { c with plugins := rs }
  listedBefore p q := compareNoCase p.name q.name != .gt
  rows_setRows _ _ := rfl
  setRows_rows _ := rfl
  setRows_setRows _ _ _ := rfl

instance : Cached Product Int64 where
  table := "products"
  keyColumn := "product_id"
  rows c := c.products
  setRows c rs := { c with products := rs }
  listedBefore p q := beforeByText p.name q.name p.productId q.productId
  rows_setRows _ _ := rfl
  setRows_rows _ := rfl
  setRows_setRows _ _ _ := rfl

instance : Cached Coupon Int64 where
  table := "coupons"
  keyColumn := "coupon_id"
  rows c := c.coupons
  setRows c rs := { c with coupons := rs }
  listedBefore c d := beforeByText c.code d.code c.couponId d.couponId
  rows_setRows _ _ := rfl
  setRows_rows _ := rfl
  setRows_setRows _ _ _ := rfl

section

variable {R K : Type} [DecidableEq K] [NaturalKey K] [Cached R K]

def Row.isOf (site : SiteId) (row : Row R) : Bool := Resource.site row.record = site

def Row.isAt (site : SiteId) (key : K) (row : Row R) : Bool :=
  row.isOf site && Resource.key row.record == key

def Row.overwrite (row : Row R) (r : R) : Row R :=
  ⟨row.id, Resource.rekey r (Resource.site row.record) (Resource.key row.record), []⟩

end

end SiteCache.Store
