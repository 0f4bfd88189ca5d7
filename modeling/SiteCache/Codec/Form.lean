import SiteCache.Codec.Stored
import SiteCache.Codec.Wire
import SiteCache.Store.Family

set_option autoImplicit false

namespace SiteCache.Codec

open Json

structure Form (R K : Type) where
  wire : SiteId → Decoder R
  core : Decoder R
  value : R → Value
  key : Decoder K
  keyValue : K → Value

def pluginForm : Form SitePlugin String :=
  ⟨Wire.sitePlugin, sitePlugin, sitePluginValue, Decode.text, .string⟩

def productForm : Form Product Int64 :=
  ⟨Wire.product, product, productValue, Decode.int64, int64Value⟩

def couponForm : Form Coupon Int64 :=
  ⟨Wire.coupon, coupon, couponValue, Decode.int64, int64Value⟩

def formOf : (k : ResourceKind) → Form (RecordOf k) (KeyOf k)
  | .sitePlugin => pluginForm
  | .product => productForm
  | .coupon => couponForm

end SiteCache.Codec
