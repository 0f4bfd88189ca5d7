import SiteCache.Codec.Form
import SiteCache.Proofs.Json.Shape
import SiteCache.Proofs.Time.Reading

set_option autoImplicit false

namespace SiteCache.Codec

open Json Shape

theorem openChoice_reads {α : Type} {ofName : String → α} {name : α → String}
    (inverse : ∀ a, ofName (name a) = a) :
    Reads (openChoice ofName) fun a => .string (name a) :=
  choice_reads fun a => congrArg Except.ok (inverse a)

theorem pluginStatus_reads : Reads pluginStatus fun status => .string status.name :=
  openChoice_reads fun status => by cases status <;> rfl

theorem productType_reads : Reads productType fun type => .string type.name :=
  openChoice_reads fun type => by cases type <;> rfl

theorem productStatus_reads : Reads productStatus fun status => .string status.name :=
  openChoice_reads fun status => by cases status <;> rfl

theorem stockStatus_reads : Reads stockStatus fun status => .string status.name :=
  openChoice_reads fun status => by cases status <;> rfl

theorem discountType_reads : Reads discountType fun type => .string type.name :=
  openChoice_reads fun type => by cases type <;> rfl

theorem siteId_reads : Reads siteId (int64Value ∘ SiteId.value) :=
  map_reads (fun _ => rfl) int64_reads

theorem zonedTime_decodes (t : Time.Instant) : zonedTime (timeValue t).node = .ok t.settle :=
  parsed_decodes _ (Time.zoned_render t)

theorem nullableText_reads : Reads (Decode.nullable Decode.text) (.ofOption .string) :=
  nullable_reads text_reads nofun

theorem nullableInt64_reads : Reads (Decode.nullable Decode.int64) (.ofOption int64Value) :=
  nullable_reads int64_reads nofun

theorem nullableTime_decodes (t : Option Time.Instant) :
    Decode.nullable zonedTime (Value.ofOption timeValue t).node = .ok (t.map .settle) := by
  cases t with
  | none => rfl
  | some t =>
    rw [Value.ofOption, Decode.nullable, zonedTime_decodes]
    · rfl
    · rintro ⟨⟩

theorem sitePlugin_reads : Reads sitePlugin sitePluginValue := by
  intro p
  have takes := constant_takes SitePlugin.mk
    |>.also (required_takes (siteId_reads p.site) "site_id")
    |>.also (required_takes (text_reads p.plugin) "plugin")
    |>.also (required_takes (pluginStatus_reads p.status) "status")
    |>.also (required_takes (text_reads p.name) "name")
    |>.also (required_takes (text_reads p.pluginUri) "plugin_uri")
    |>.also (required_takes (text_reads p.author) "author")
    |>.also (required_takes (text_reads p.authorUri) "author_uri")
    |>.also (required_takes (text_reads p.descriptionRaw) "description_raw")
    |>.also (required_takes (text_reads p.descriptionRendered) "description_rendered")
    |>.also (required_takes (text_reads p.version) "version")
    |>.also (required_takes (boolean_reads p.networkOnly) "network_only")
    |>.also (required_takes (text_reads p.requiresWpVersion) "requires_wp_version")
    |>.also (required_takes (text_reads p.requiresPhpVersion) "requires_php_version")
    |>.also (required_takes (text_reads p.textDomain) "text_domain")
  simp only [List.nil_append, List.cons_append] at takes
  exact takes.decodes (by decide) "SitePlugin"

def timesOf : (k : ResourceKind) → RecordOf k → List Time.Instant
  | .sitePlugin, _ => []
  | .product, p => [p.dateCreated, p.dateModified]
  | .coupon, c => c.dateExpires.toList ++ [c.dateModified]

def settle : (k : ResourceKind) → RecordOf k → RecordOf k
  | .sitePlugin, p => p
  | .product, p =>
    { p with dateCreated := p.dateCreated.settle, dateModified := p.dateModified.settle }
  | .coupon, c =>
    { c with dateExpires := c.dateExpires.map .settle, dateModified := c.dateModified.settle }

theorem settle_eq_self_iff {k : ResourceKind} {r : RecordOf k} :
    settle k r = r ↔ ∀ t ∈ timesOf k r, t.Settled := by
  cases k with
  | sitePlugin => simp [settle, timesOf]
  | product =>
    obtain ⟨⟩ := r
    simp [settle, timesOf, Time.Instant.settle_eq_self_iff]
  | coupon =>
    obtain ⟨_, _, _, _, _, _, expires, _, _, _, _, _⟩ := r
    cases expires <;> simp [settle, timesOf, Time.Instant.settle_eq_self_iff]

theorem product_decodes (p : Product) :
    product (productValue p).node = .ok (settle .product p) := by
  have takes := constant_takes Product.mk
    |>.also (required_takes (siteId_reads p.site) "site_id")
    |>.also (required_takes (int64_reads p.productId) "product_id")
    |>.also (required_takes (text_reads p.name) "name")
    |>.also (required_takes (text_reads p.slug) "slug")
    |>.also (required_takes (text_reads p.permalink) "permalink")
    |>.also (required_takes (productType_reads p.productType) "product_type")
    |>.also (required_takes (productStatus_reads p.status) "status")
    |>.also (nullable_takes (nullableText_reads p.sku) "sku")
    |>.also (required_takes (text_reads p.price) "price")
    |>.also (nullable_takes (nullableText_reads p.regularPrice) "regular_price")
    |>.also (nullable_takes (nullableText_reads p.salePrice) "sale_price")
    |>.also (required_takes (stockStatus_reads p.stockStatus) "stock_status")
    |>.also (required_takes (boolean_reads p.manageStock) "manage_stock")
    |>.also (nullable_takes (nullableInt64_reads p.stockQuantity) "stock_quantity")
    |>.also (required_takes (zonedTime_decodes p.dateCreated) "date_created")
    |>.also (required_takes (zonedTime_decodes p.dateModified) "date_modified")
  simp only [List.nil_append, List.cons_append] at takes
  exact takes.decodes (by decide) "Product"

theorem coupon_decodes (c : Coupon) :
    coupon (couponValue c).node = .ok (settle .coupon c) := by
  have takes := constant_takes Coupon.mk
    |>.also (required_takes (siteId_reads c.site) "site_id")
    |>.also (required_takes (int64_reads c.couponId) "coupon_id")
    |>.also (required_takes (text_reads c.code) "code")
    |>.also (required_takes (text_reads c.amount) "amount")
    |>.also (required_takes (discountType_reads c.discountType) "discount_type")
    |>.also (required_takes (text_reads c.description) "description")
    |>.also (nullable_takes (nullableTime_decodes c.dateExpires) "date_expires")
    |>.also (required_takes (int64_reads c.usageCount) "usage_count")
    |>.also (nullable_takes (nullableInt64_reads c.usageLimit) "usage_limit")
    |>.also (required_takes (boolean_reads c.individualUse) "individual_use")
    |>.also (required_takes (boolean_reads c.freeShipping) "free_shipping")
    |>.also (required_takes (zonedTime_decodes c.dateModified) "date_modified")
  simp only [List.nil_append, List.cons_append] at takes
  exact takes.decodes (by decide) "Coupon"

theorem core_decodes (k : ResourceKind) (r : RecordOf k) :
    (formOf k).core ((formOf k).value r).node = .ok (settle k r) := by
  cases k with
  | sitePlugin => exact sitePlugin_reads r
  | product => exact product_decodes r
  | coupon => exact coupon_decodes r

theorem decodeText_core (k : ResourceKind) (r : RecordOf k) :
    decodeText (formOf k).core ((formOf k).value r).render = .ok (settle k r) := by
  rw [decodeText_render, core_decodes]

theorem decodeText_core_render (k : ResourceKind) (r : RecordOf k) :
    (decodeText (formOf k).core ((formOf k).value r).render = .ok r ↔
      ∀ t ∈ timesOf k r, t.Settled) ∧
    decodeText (formOf k).core ((formOf k).value r).render = .ok (settle k r) := by
  rw [decodeText_core, Except.ok.injEq]
  exact ⟨settle_eq_self_iff, rfl⟩

-- Within a leap second that follows the fourth second of its minute.
def strayInstant : Time.Instant :=
  { Time.Instant.epoch with
    second := 86164
    nano := 1333333333
    second_lt := Nat.le_of_ble_eq_true rfl
    nano_lt := Nat.le_of_ble_eq_true rfl }

def strayCoupon : Coupon :=
  { Coupon.new ⟨7⟩ 1 "stray" .epoch with dateExpires := some strayInstant }

theorem strayCoupon_moved :
    decodeText couponForm.core (couponForm.value strayCoupon).render ≠ .ok strayCoupon := by
  rw [show decodeText couponForm.core (couponForm.value strayCoupon).render =
    .ok (settle .coupon strayCoupon) from decodeText_core .coupon strayCoupon]
  decide

end SiteCache.Codec
