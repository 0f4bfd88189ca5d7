import SiteCache.Codec.Names
import SiteCache.Summary
import SiteCache.Time.Reading
import SiteCache.Time.Writing

set_option autoImplicit false

namespace SiteCache.Codec

open Json

def zonedTime : Decoder Time.Instant :=
  Decode.parsed "an RFC 3339 formatted date and time string" Time.zoned

def siteId : Decoder SiteId := fun node => (Decode.int64 node).map SiteId.mk

def int64Value (n : Int64) : Value := .int n.toInt

def timeValue (t : Time.Instant) : Value := .string t.render

def sitePluginShape : Shape SitePlugin :=
  ((((((((((((((Shape.constant SitePlugin.mk
    ).also (.required "site_id" siteId)
    ).also (.required "plugin" Decode.text)
    ).also (.required "status" pluginStatus)
    ).also (.required "name" Decode.text)
    ).also (.required "plugin_uri" Decode.text)
    ).also (.required "author" Decode.text)
    ).also (.required "author_uri" Decode.text)
    ).also (.required "description_raw" Decode.text)
    ).also (.required "description_rendered" Decode.text)
    ).also (.required "version" Decode.text)
    ).also (.required "network_only" Decode.boolean)
    ).also (.required "requires_wp_version" Decode.text)
    ).also (.required "requires_php_version" Decode.text)
    ).also (.required "text_domain" Decode.text)

def sitePlugin : Decoder SitePlugin := sitePluginShape.decoder "SitePlugin"

def sitePluginValue (p : SitePlugin) : Value :=
  .object [
    ("site_id", int64Value p.site.value),
    ("plugin", .string p.plugin),
    ("status", .string p.status.name),
    ("name", .string p.name),
    ("plugin_uri", .string p.pluginUri),
    ("author", .string p.author),
    ("author_uri", .string p.authorUri),
    ("description_raw", .string p.descriptionRaw),
    ("description_rendered", .string p.descriptionRendered),
    ("version", .string p.version),
    ("network_only", .bool p.networkOnly),
    ("requires_wp_version", .string p.requiresWpVersion),
    ("requires_php_version", .string p.requiresPhpVersion),
    ("text_domain", .string p.textDomain)]

def productShape : Shape Product :=
  ((((((((((((((((Shape.constant Product.mk
    ).also (.required "site_id" siteId)
    ).also (.required "product_id" Decode.int64)
    ).also (.required "name" Decode.text)
    ).also (.required "slug" Decode.text)
    ).also (.required "permalink" Decode.text)
    ).also (.required "product_type" productType)
    ).also (.required "status" productStatus)
    ).also (.nullable "sku" Decode.text)
    ).also (.required "price" Decode.text)
    ).also (.nullable "regular_price" Decode.text)
    ).also (.nullable "sale_price" Decode.text)
    ).also (.required "stock_status" stockStatus)
    ).also (.required "manage_stock" Decode.boolean)
    ).also (.nullable "stock_quantity" Decode.int64)
    ).also (.required "date_created" zonedTime)
    ).also (.required "date_modified" zonedTime)

def product : Decoder Product := productShape.decoder "Product"

def productValue (p : Product) : Value :=
  .object [
    ("site_id", int64Value p.site.value),
    ("product_id", int64Value p.productId),
    ("name", .string p.name),
    ("slug", .string p.slug),
    ("permalink", .string p.permalink),
    ("product_type", .string p.productType.name),
    ("status", .string p.status.name),
    ("sku", .ofOption .string p.sku),
    ("price", .string p.price),
    ("regular_price", .ofOption .string p.regularPrice),
    ("sale_price", .ofOption .string p.salePrice),
    ("stock_status", .string p.stockStatus.name),
    ("manage_stock", .bool p.manageStock),
    ("stock_quantity", .ofOption int64Value p.stockQuantity),
    ("date_created", timeValue p.dateCreated),
    ("date_modified", timeValue p.dateModified)]

def couponShape : Shape Coupon :=
  ((((((((((((Shape.constant Coupon.mk
    ).also (.required "site_id" siteId)
    ).also (.required "coupon_id" Decode.int64)
    ).also (.required "code" Decode.text)
    ).also (.required "amount" Decode.text)
    ).also (.required "discount_type" discountType)
    ).also (.required "description" Decode.text)
    ).also (.nullable "date_expires" zonedTime)
    ).also (.required "usage_count" Decode.int64)
    ).also (.nullable "usage_limit" Decode.int64)
    ).also (.required "individual_use" Decode.boolean)
    ).also (.required "free_shipping" Decode.boolean)
    ).also (.required "date_modified" zonedTime)

def coupon : Decoder Coupon := couponShape.decoder "Coupon"

def couponValue (c : Coupon) : Value :=
  .object [
    ("site_id", int64Value c.site.value),
    ("coupon_id", int64Value c.couponId),
    ("code", .string c.code),
    ("amount", .string c.amount),
    ("discount_type", .string c.discountType.name),
    ("description", .string c.description),
    ("date_expires", .ofOption timeValue c.dateExpires),
    ("usage_count", int64Value c.usageCount),
    ("usage_limit", .ofOption int64Value c.usageLimit),
    ("individual_use", .bool c.individualUse),
    ("free_shipping", .bool c.freeShipping),
    ("date_modified", timeValue c.dateModified)]

def summaryShape : Shape Summary :=
  (((Shape.constant Summary.mk
    ).also (.required "inserted" Decode.count)
    ).also (.required "updated" Decode.count)
    ).also (.required "deleted" Decode.count)

def summary : Decoder Summary := summaryShape.decoder "ReconcileSummary"

def summaryValue (s : Summary) : Value :=
  .object [("inserted", .int s.inserted), ("updated", .int s.updated), ("deleted", .int s.deleted)]

end SiteCache.Codec
