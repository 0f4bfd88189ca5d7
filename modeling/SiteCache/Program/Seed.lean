import SiteCache.Config.Loading
import SiteCache.Program.Ending
import SiteCache.Store.Listing
import SiteCache.Sync.Synchronizer
import SiteCache.Text.Lowercase
import SiteCache.Text.Quoted

set_option autoImplicit false

namespace SiteCache.Seed

open Program (Complaint Ending)
open Store (Database DbError FileContent Session SessionM)

def plugins : List (String × String × String) :=
  [("woocommerce/woocommerce.php", "WooCommerce", "8.1.0"),
    ("jetpack/jetpack.php", "Jetpack", "12.6"),
    ("akismet/akismet.php", "Akismet Anti-Spam", "5.3"),
    ("woocommerce-payments/woocommerce-payments.php", "WooPayments", "6.5.1")]

def productNames : List String :=
  ["Hoodie", "Beanie", "Belt", "Cap", "Sunglasses", "T-Shirt", "Polo", "Album", "Single",
    "Long Sleeve Tee", "Hoodie with Logo", "Hoodie with Zipper"]

def coupons : List (String × DiscountType × String) :=
  [("WELCOME10", .percent, "10"), ("FREESHIP", .fixedCart, "0"), ("FIVEOFF", .fixedProduct, "5.00")]

def samplePlugins (site : SiteId) : List SitePlugin :=
  plugins.mapIdx fun i (file, name, version) =>
    (SitePlugin.new site file name (if i % 3 = 2 then .inactive else .active)).withVersion version

def sampleCoupons (site : SiteId) (now : Time.Instant) : List Coupon :=
  coupons.mapIdx fun i (code, discountType, amount) =>
    { Coupon.new site (.ofNat (500 + i)) code now with
      discountType := discountType
      amount := amount
      freeShipping := code = "FREESHIP" }

def priceText (cents : Nat) : String :=
  Text.natText (cents / 100) ++ "." ++ .ofList (Text.paddedDigits 2 (cents % 100))

def dashed (s : String) : String :=
  .ofList ((Text.lowercase s).toList.map fun c => if c = ' ' then '-' else c)

def sampleStock (i : Nat) : StockStatus :=
  match i % 10 with
  | 0 => .outOfStock
  | 1 => .onBackorder
  | _ => .inStock

def sampleProduct (site : SiteId) (now : Time.Instant) (i : Nat) : Product :=
  let base := productNames.getD (i % productNames.length) ""
  let id := 1000 + i
  let price := priceText (500 + i * 37 % 9500)
  { Product.new site (.ofNat id)
      (base ++ " #" ++ Text.natText (i / productNames.length + 1)) now with
    slug := dashed base ++ "-" ++ Text.natText id
    sku := some ("SKU-" ++ .ofList (Text.paddedDigits 5 id))
    price := price
    regularPrice := some price
    productType := if i % 5 = 0 then .variable else .simple
    stockStatus := sampleStock i
    manageStock := i % 2 = 0
    stockQuantity := if i % 2 = 0 then some (.ofNat (i % 50)) else none }

def sampleProducts (site : SiteId) (now : Time.Instant) (count : Nat) : List Product :=
  (List.range count).map (sampleProduct site now)

structure Summaries where
  plugins : Summary
  products : Summary
  coupons : Summary
  deriving DecidableEq, Repr

def fill (site : SiteId) (now : Time.Instant) (count : Nat) : SessionM Summaries := do
  let plugins ← Session.apply (Plan.build site (samplePlugins site) .merge)
  let products ← Session.apply (Plan.build site (sampleProducts site now count) .merge)
  let coupons ← Session.apply (Plan.build site (sampleCoupons site now) .merge)
  pure ⟨plugins, products, coupons⟩

structure Settings where
  count : UInt64 := 200
  site : SiteId := ⟨1⟩
  database : String := "./shopsync_dev.db"
  deriving DecidableEq, Repr

/-- A number that cannot be read leaves the setting as it was, and what is no option is passed over.
There are no settings when help is asked for. -/
def Settings.read (s : Settings) : List String → Option Settings
  | [] => some s
  | [argument] => if argument = "--help" ∨ argument = "-h" then none else some s
  | argument :: value :: rest =>
    if argument = "--count" ∨ argument = "-c" then
      read { s with count := (Config.readUInt64 value).getD s.count } rest
    else if argument = "--site" ∨ argument = "-s" then
      let site := ((Text.readInt64 value.toList).toOption.map SiteId.mk).getD s.site
      read { s with site := site } rest
    else if argument = "--db" ∨ argument = "-d" then read { s with database := value } rest
    else if argument = "--help" ∨ argument = "-h" then none
    else read s (value :: rest)

def help : List String :=
  ["shopsync Seed Data Generator",
    "",
    "Usage: seed [OPTIONS]",
    "",
    "Options:",
    "  -c, --count <N>    Number of products to generate (default: 200)",
    "  -s, --site <ID>    Site id to seed (default: 1)",
    "  -d, --db <PATH>    Database file path (default: ./shopsync_dev.db)",
    "  -h, --help         Show this help message"]

def Settings.heading (s : Settings) : List String :=
  ["shopsync Seed Data Generator", "============================", "Database: " ++ s.database,
    "Site:     " ++ s.site.text, "Products: " ++ Text.natText s.count.toNat, ""]

def Summaries.lines (s : Summaries) : List String :=
  ["", "✓ Plugins:  " ++ s.plugins.text, "✓ Products: " ++ s.products.text,
    "✓ Coupons:  " ++ s.coupons.text]

def closing (site : SiteId) (db : Database) : Except DbError (List String) := do
  let plugins ← db.count SitePlugin site
  let products ← db.count Product site
  let coupons ← db.count Coupon site
  pure ["", "Site " ++ site.text ++ " now caches " ++ Text.natText plugins ++ " plugins, " ++
    Text.natText products ++ " products, " ++ Text.natText coupons ++ " coupons"]

def complaintOf (e : DbError) : Complaint :=
  match e with
  | .connectionFailed reason => ⟨"ConnectionFailed(" ++ Text.quoted reason ++ ")", none⟩
  | e => ⟨e.label ++ "(" ++ Text.quoted e.message ++ ")", none⟩

def Settings.run (s : Settings) (now : Time.Instant) (files : Files FileContent) :
    Ending × Files FileContent :=
  match Database.openFile files s.database with
  | .error e => (.of s.heading (.error (complaintOf e)), files)
  | .ok db =>
    let (r, db) := Sync.inSession (fill s.site now s.count.toNat) db
    let files := Database.closeFile files s.database db
    let begun := s.heading ++ ["✓ Connected to database, migrations applied"]
    match r with
    | .error e => (.of begun (.error (complaintOf e)), files)
    | .ok summaries =>
      let output := begun ++ summaries.lines
      match closing s.site db with
      | .error e => (.of output (.error (complaintOf e)), files)
      | .ok lines => (.of (output ++ lines) (.ok ()), files)

def run (arguments : List String) (now : Time.Instant) (files : Files FileContent) :
    Ending × Files FileContent :=
  match ({} : Settings).read arguments with
  | none => (⟨0, help, []⟩, files)
  | some s => s.run now files

end SiteCache.Seed
