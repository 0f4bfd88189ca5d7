import SiteCache.Codec.Form
import SiteCache.Store.File

set_option autoImplicit false

namespace SiteCache.Codec

open Json Store

def imageRow {R : Type} (record : Decoder R) : Decoder (Row R) :=
  let shape := ((Shape.constant fun id r => (⟨.issued id, r, []⟩ : Row R)
    ).also (.required "id" Decode.count)
    ).also (.required "record" record)
  shape.decoder "row"

def imageRowValue? {R : Type} (value : R → Value) (row : Row R) : Option Value :=
  match row.id with
  | .issued n => some (.object [("id", .int n), ("record", value row.record)])
  | .other _ => none

def imageShape : Shape Database :=
  ((((Shape.constant fun supply plugins products coupons =>
      { Database.new with supply := supply, contents := ⟨plugins, products, coupons⟩ }
    ).also (.required "next_row" Decode.count)
    ).also (.required "site_plugins" (Decode.list (imageRow sitePlugin)))
    ).also (.required "products" (Decode.list (imageRow product)))
    ).also (.required "coupons" (Decode.list (imageRow coupon)))

def imageValue (db : Database) : Value :=
  .object [("next_row", .int db.supply),
    ("site_plugins", .array (db.contents.plugins.filterMap (imageRowValue? sitePluginValue))),
    ("products", .array (db.contents.products.filterMap (imageRowValue? productValue))),
    ("coupons", .array (db.contents.coupons.filterMap (imageRowValue? couponValue)))]

def fileContent (s : String) : FileContent :=
  match decodeText (imageShape.decoder "store") s with
  | .ok db => .database db
  | .error _ => .text s

def fileText : FileContent → String
  | .text s => s
  | .database db => (imageValue db).render

end SiteCache.Codec
