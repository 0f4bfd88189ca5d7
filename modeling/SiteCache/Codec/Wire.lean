import SiteCache.Codec.Names
import SiteCache.Time.Reading

set_option autoImplicit false

namespace SiteCache.Codec.Wire

open Json

def bareTime : Decoder Time.Instant :=
  Decode.parsed "a formatted date and time string" Time.bare

def optional {α : Type} (name : String) (decoder : Decoder α) : Shape (Option α) :=
  .defaulted name (Decode.nullable decoder) none

def nonEmpty (s : Option String) : Option String := s.filter (· ≠ "")

def description : Decoder (String × String) :=
  (((Shape.constant Prod.mk
    ).also (.defaulted "raw" Decode.text "")
    ).also (.defaulted "rendered" Decode.text "")).decoder "PluginDescriptionDto"

def sitePluginOf (site : SiteId) (plugin : String) (status : PluginStatus)
    (name pluginUri author authorUri : String) (description : String × String) (version : String)
    (networkOnly : Bool) (requiresWp requiresPhp textDomain : Option String) : SitePlugin where
  site := site
  plugin := plugin
  status := status
  name := name
  pluginUri := pluginUri
  author := author
  authorUri := authorUri
  descriptionRaw := description.1
  descriptionRendered := description.2
  version := version
  networkOnly := networkOnly
  requiresWpVersion := requiresWp.getD ""
  requiresPhpVersion := requiresPhp.getD ""
  textDomain := textDomain.getD ""

def sitePluginShape (site : SiteId) : Shape SitePlugin :=
  ((((((((((((Shape.constant (sitePluginOf site)
    ).also (.required "plugin" Decode.text)
    ).also (.defaulted "status" pluginStatus .inactive)
    ).also (.required "name" Decode.text)
    ).also (.defaulted "plugin_uri" Decode.text "")
    ).also (.defaulted "author" Decode.text "")
    ).also (.defaulted "author_uri" Decode.text "")
    ).also (.defaulted "description" description ("", ""))
    ).also (.defaulted "version" Decode.text "")
    ).also (.defaulted "network_only" Decode.boolean false)
    ).also (optional "requires_wp" Decode.text)
    ).also (optional "requires_php" Decode.text)
    ).also (optional "textdomain" Decode.text)

def sitePlugin (site : SiteId) : Decoder SitePlugin :=
  (sitePluginShape site).decoder "PluginDto"

def productOf (site : SiteId) (id : Int64) (name slug permalink : String)
    (productType : ProductType) (status : ProductStatus)
    (sku price regularPrice salePrice : Option String) (stockStatus : StockStatus)
    (manageStock : Bool) (stockQuantity : Option Int64)
    (dateCreated dateModified : Option Time.Instant) : Product where
  site := site
  productId := id
  name := name
  slug := slug
  permalink := permalink
  productType := productType
  status := status
  sku := nonEmpty sku
  price := price.getD ""
  regularPrice := nonEmpty regularPrice
  salePrice := nonEmpty salePrice
  stockStatus := stockStatus
  manageStock := manageStock
  stockQuantity := stockQuantity
  dateCreated := dateCreated.getD .epoch
  dateModified := dateModified.getD (dateCreated.getD .epoch)

def productShape (site : SiteId) : Shape Product :=
  (((((((((((((((Shape.constant (productOf site)
    ).also (.required "id" Decode.int64)
    ).also (.defaulted "name" Decode.text "")
    ).also (.defaulted "slug" Decode.text "")
    ).also (.defaulted "permalink" Decode.text "")
    ).also (.defaulted "type" productType .simple)
    ).also (.defaulted "status" productStatus .publish)
    ).also (optional "sku" Decode.text)
    ).also (optional "price" Decode.text)
    ).also (optional "regular_price" Decode.text)
    ).also (optional "sale_price" Decode.text)
    ).also (.defaulted "stock_status" stockStatus .inStock)
    ).also (.defaulted "manage_stock" Decode.boolean false)
    ).also (optional "stock_quantity" Decode.int64)
    ).also (optional "date_created_gmt" bareTime)
    ).also (optional "date_modified_gmt" bareTime)

def product (site : SiteId) : Decoder Product := (productShape site).decoder "ProductDto"

def couponOf (site : SiteId) (id : Int64) (code amount : String) (discountType : DiscountType)
    (description : String) (dateExpires : Option Time.Instant) (usageCount : Int64)
    (usageLimit : Option Int64) (individualUse freeShipping : Bool)
    (dateModified : Option Time.Instant) : Coupon where
  site := site
  couponId := id
  code := code
  amount := amount
  discountType := discountType
  description := description
  dateExpires := dateExpires
  usageCount := usageCount
  usageLimit := usageLimit
  individualUse := individualUse
  freeShipping := freeShipping
  dateModified := dateModified.getD .epoch

def couponShape (site : SiteId) : Shape Coupon :=
  (((((((((((Shape.constant (couponOf site)
    ).also (.required "id" Decode.int64)
    ).also (.required "code" Decode.text)
    ).also (.defaulted "amount" Decode.text "")
    ).also (.defaulted "discount_type" discountType .fixedCart)
    ).also (.defaulted "description" Decode.text "")
    ).also (optional "date_expires_gmt" bareTime)
    ).also (.defaulted "usage_count" Decode.int64 0)
    ).also (optional "usage_limit" Decode.int64)
    ).also (.defaulted "individual_use" Decode.boolean false)
    ).also (.defaulted "free_shipping" Decode.boolean false)
    ).also (optional "date_modified_gmt" bareTime)

def coupon (site : SiteId) : Decoder Coupon := (couponShape site).decoder "CouponDto"

end SiteCache.Codec.Wire
