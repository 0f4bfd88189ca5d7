import SiteCache.Store.Family
import SiteCache.Text.Column
import SiteCache.Text.Lowercase
import SiteCache.Time.Writing

set_option autoImplicit false

namespace SiteCache.Program

open Text (padEnd padStart)

def columns (cells : List String) : String := " ".intercalate cells

def pluginRow (p : SitePlugin) : String :=
  columns [padEnd 40 p.name, padEnd 10 p.version,
    padEnd 14 (if p.status.isActive then "active" else "inactive"), p.plugin]

def productRow (p : Product) : String :=
  columns [padStart 8 (Text.intText p.productId.toInt), padEnd 40 p.name, padStart 10 p.price,
    padEnd 12 p.stockStatus.name, padEnd 9 p.productType.name, p.sku.getD "-"]

def couponRow (c : Coupon) : String :=
  let limit := (c.usageLimit.map fun limit => Text.intText limit.toInt).getD "-"
  let day (t : Time.Instant) := String.ofList (Time.Date.ofNumber t.day).write
  let expires := (c.dateExpires.map day).getD "-"
  columns [padStart 8 (Text.intText c.couponId.toInt), padEnd 20 c.code, padStart 8 c.amount,
    padEnd 14 (Text.lowercase c.discountType.label), "used",
    Text.intText c.usageCount.toInt ++ "/" ++ limit, "expires", expires]

def row : (k : ResourceKind) → RecordOf k → String
  | .sitePlugin => pluginRow
  | .product => productRow
  | .coupon => couponRow

end SiteCache.Program
