import SiteCache.Coupon
import SiteCache.Json.Shape
import SiteCache.Json.Value
import SiteCache.Plan
import SiteCache.Plugin
import SiteCache.Query

set_option autoImplicit false

namespace SiteCache.Codec

open Json

def openChoice {α : Type} (ofName : String → α) : Decoder α :=
  Decode.choice fun s => .ok (ofName s)

def closedChoice {α : Type} (ofName? : String → Option α) (names : List String) : Decoder α :=
  Decode.choice fun s =>
    match ofName? s with
    | some a => .ok a
    | none => .error (.unknownVariant s names)

def pluginStatus : Decoder PluginStatus := openChoice .ofName

def productType : Decoder ProductType := openChoice .ofName

def productStatus : Decoder ProductStatus := openChoice .ofName

def stockStatus : Decoder StockStatus := openChoice .ofName

def discountType : Decoder DiscountType := openChoice .ofName

def resourceKind : Decoder ResourceKind :=
  closedChoice ResourceKind.ofName? (ResourceKind.all.map ResourceKind.name)

def reconcileMode : Decoder ReconcileMode :=
  closedChoice ReconcileMode.ofName? (ReconcileMode.all.map ReconcileMode.name)

def sortOrder : Decoder ProductSortOrder :=
  closedChoice ProductSortOrder.ofName? (ProductSortOrder.all.map ProductSortOrder.name)

end SiteCache.Codec
