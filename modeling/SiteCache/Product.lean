import SiteCache.Record
import SiteCache.Time.Instant

set_option autoImplicit false

namespace SiteCache

inductive ProductType where
  | simple
  | grouped
  | external
  | variable
  | custom
  deriving DecidableEq, Repr

namespace ProductType

def all : List ProductType := [.simple, .grouped, .external, .variable, .custom]

def name : ProductType → String
  | .simple => "simple"
  | .grouped => "grouped"
  | .external => "external"
  | .variable => "variable"
  | .custom => "custom"

def label : ProductType → String
  | .simple => "Simple"
  | .grouped => "Grouped"
  | .external => "External"
  | .variable => "Variable"
  | .custom => "Custom"

def ofName? (s : String) : Option ProductType := all.find? (·.name == s)

def ofName (s : String) : ProductType := (ofName? s).getD .custom

def parse (s : String) : Except DomainError ProductType :=
  let lowered := Text.lowercase s
  match ofName? lowered with
  | some .custom | none => .error (.unknownValue "product type" lowered)
  | some type => .ok type

end ProductType

inductive ProductStatus where
  | publish
  | draft
  | pending
  | «private»
  | other
  deriving DecidableEq, Repr

namespace ProductStatus

def all : List ProductStatus := [.publish, .draft, .pending, .private, .other]

def name : ProductStatus → String
  | .publish => "publish"
  | .draft => "draft"
  | .pending => "pending"
  | .private => "private"
  | .other => "other"

def label : ProductStatus → String
  | .publish => "Publish"
  | .draft => "Draft"
  | .pending => "Pending"
  | .private => "Private"
  | .other => "Other"

def ofName? (s : String) : Option ProductStatus := all.find? (·.name == s)

def ofName (s : String) : ProductStatus := (ofName? s).getD .other

def parse (s : String) : Except DomainError ProductStatus :=
  let lowered := Text.lowercase s
  if lowered = "published" then .ok .publish
  else
    match ofName? lowered with
    | some .other | none => .error (.unknownValue "product status" lowered)
    | some status => .ok status

end ProductStatus

inductive StockStatus where
  | inStock
  | outOfStock
  | onBackorder
  | other
  deriving DecidableEq, Repr

namespace StockStatus

def all : List StockStatus := [.inStock, .outOfStock, .onBackorder, .other]

def name : StockStatus → String
  | .inStock => "instock"
  | .outOfStock => "outofstock"
  | .onBackorder => "onbackorder"
  | .other => "other"

def label : StockStatus → String
  | .inStock => "InStock"
  | .outOfStock => "OutOfStock"
  | .onBackorder => "OnBackorder"
  | .other => "Other"

def ofName? (s : String) : Option StockStatus := all.find? (·.name == s)

def ofName (s : String) : StockStatus := (ofName? s).getD .other

def parse (s : String) : Except DomainError StockStatus :=
  let lowered : String :=
    .ofList ((Text.lowercase s).toList.filter fun c => c ≠ '_' && c ≠ '-')
  match ofName? lowered with
  | some .other | none => .error (.unknownValue "stock status" lowered)
  | some status => .ok status

end StockStatus

structure Product where
  site : SiteId
  productId : Int64
  name : String
  slug : String
  permalink : String
  productType : ProductType
  status : ProductStatus
  sku : Option String
  price : String
  regularPrice : Option String
  salePrice : Option String
  stockStatus : StockStatus
  manageStock : Bool
  stockQuantity : Option Int64
  dateCreated : Time.Instant
  dateModified : Time.Instant
  deriving DecidableEq

def Product.new (site : SiteId) (productId : Int64) (name : String) (now : Time.Instant) :
    Product where
  site := site
  productId := productId
  name := name
  slug := ""
  permalink := ""
  productType := .simple
  status := .publish
  sku := none
  price := ""
  regularPrice := none
  salePrice := none
  stockStatus := .inStock
  manageStock := false
  stockQuantity := none
  dateCreated := now
  dateModified := now

def Product.isOnSale (p : Product) : Bool :=
  p.salePrice.any (· ≠ "")

instance : Resource Product Int64 where
  kind := .product
  site p := p.site
  key p := p.productId
  rekey p site id := { p with site := site, productId := id }
  site_rekey _ _ _ := rfl
  key_rekey _ _ _ := rfl
  rekey_self _ := rfl
  rekey_rekey _ _ _ _ _ := rfl

end SiteCache
