import SiteCache.Store.Database
import SiteCache.Store.Family

set_option autoImplicit false

namespace SiteCache.Store

inductive Cell where
  | null
  | integer (n : Int64)
  | text (s : String)
  deriving DecidableEq, Repr

/-- Records whose cells can be set by column; a cell of the wrong type is not set. -/
class HasCells (R : Type) where
  setCell : R → String → Cell → Option (Except Damage R)

def setChoice {R E : Type} (column choice : String) (ofName? : String → Option E) (set : E → R)
    (s : String) : Option (Except Damage R) :=
  match ofName? s with
  | some e => some (.ok (set e))
  | none => some (.error ⟨column, s, choice⟩)

instance : HasCells SitePlugin where
  setCell p
    | "status", .text s =>
      setChoice "status" "PluginStatus" PluginStatus.ofName? (fun e => { p with status := e }) s
    | "plugin", .text s => some (.ok { p with plugin := s })
    | "plugin_uri", .text s => some (.ok { p with pluginUri := s })
    | "author", .text s => some (.ok { p with author := s })
    | "author_uri", .text s => some (.ok { p with authorUri := s })
    | "description_raw", .text s => some (.ok { p with descriptionRaw := s })
    | "description_rendered", .text s => some (.ok { p with descriptionRendered := s })
    | "version", .text s => some (.ok { p with version := s })
    | "network_only", .integer n => some (.ok { p with networkOnly := n ≠ 0 })
    | "requires_wp_version", .text s => some (.ok { p with requiresWpVersion := s })
    | "requires_php_version", .text s => some (.ok { p with requiresPhpVersion := s })
    | "text_domain", .text s => some (.ok { p with textDomain := s })
    | _, _ => none

instance : HasCells Product where
  setCell p
    | "product_type", .text s =>
      setChoice "product_type" "ProductType" ProductType.ofName?
        (fun e => { p with productType := e }) s
    | "status", .text s =>
      setChoice "status" "ProductStatus" ProductStatus.ofName? (fun e => { p with status := e }) s
    | "stock_status", .text s =>
      setChoice "stock_status" "StockStatus" StockStatus.ofName?
        (fun e => { p with stockStatus := e }) s
    | "name", .text s => some (.ok { p with name := s })
    | "slug", .text s => some (.ok { p with slug := s })
    | "permalink", .text s => some (.ok { p with permalink := s })
    | "sku", .text s => some (.ok { p with sku := some s })
    | "sku", .null => some (.ok { p with sku := none })
    | "price", .text s => some (.ok { p with price := s })
    | "regular_price", .text s => some (.ok { p with regularPrice := some s })
    | "regular_price", .null => some (.ok { p with regularPrice := none })
    | "sale_price", .text s => some (.ok { p with salePrice := some s })
    | "sale_price", .null => some (.ok { p with salePrice := none })
    | "manage_stock", .integer n => some (.ok { p with manageStock := n ≠ 0 })
    | "stock_quantity", .integer n => some (.ok { p with stockQuantity := some n })
    | "stock_quantity", .null => some (.ok { p with stockQuantity := none })
    | _, _ => none

instance : HasCells Coupon where
  setCell c
    | "discount_type", .text s =>
      setChoice "discount_type" "DiscountType" DiscountType.ofName?
        (fun e => { c with discountType := e }) s
    | "code", .text s => some (.ok { c with code := s })
    | "amount", .text s => some (.ok { c with amount := s })
    | "description", .text s => some (.ok { c with description := s })
    | "date_expires", .null => some (.ok { c with dateExpires := none })
    | "usage_count", .integer n => some (.ok { c with usageCount := n })
    | "usage_limit", .integer n => some (.ok { c with usageLimit := some n })
    | "usage_limit", .null => some (.ok { c with usageLimit := none })
    | "individual_use", .integer n => some (.ok { c with individualUse := n ≠ 0 })
    | "free_shipping", .integer n => some (.ok { c with freeShipping := n ≠ 0 })
    | _, _ => none

instance (k : ResourceKind) : HasCells (RecordOf k) :=
  match k with
  | .sitePlugin => inferInstanceAs (HasCells SitePlugin)
  | .product => inferInstanceAs (HasCells Product)
  | .coupon => inferInstanceAs (HasCells Coupon)

def choiceColumns : List String := ["product_type", "status", "stock_status", "discount_type"]

def Row.setCell {R : Type} [HasCells R] (row : Row R) (column : String) (cell : Cell) : Row R :=
  let kept := row.damage.filter (·.column ≠ column)
  match HasCells.setCell row.record column cell with
  | none => row
  | some (.ok r) => ⟨row.id, r, kept⟩
  | some (.error d) =>
    ⟨row.id, row.record,
      choiceColumns.filterMap fun column => (d :: kept).find? (·.column = column)⟩

def Database.overwrite {R K : Type} [DecidableEq K] [NaturalKey K] [Cached R K] [HasCells R]
    (db : Database) (site : SiteId) (key : K) (column : String) (cell : Cell) : Nat × Database :=
  let rows : List (Row R) := Cached.rows db.contents
  let changed := rows.map fun row => if row.isAt site key then row.setCell column cell else row
  (rows.countP (·.isAt site key), { db with contents := Cached.setRows db.contents changed })

end SiteCache.Store
