import SiteCache.Store.Database
import SiteCache.Text.Blank

set_option autoImplicit false

namespace SiteCache.Store.Database

section

variable (R : Type) {K : Type} [DecidableEq K] [NaturalKey K] [Cached R K]

def siteRows (db : Database) (site : SiteId) : Except DbError (List (Row R)) :=
  (db.rows R).map (·.filter (·.isOf site))

/-- The records of rows in listing order. A row that cannot be read fails the whole listing. -/
def readListed {R K : Type} [DecidableEq K] [NaturalKey K] [Cached R K] (rows : List (Row R)) :
    Except DbError (List R) :=
  (rows.mergeSort fun a b => Cached.listedBefore a.record b.record).mapM Row.read

def list (db : Database) (site : SiteId) : Except DbError (List R) := do
  readListed (← db.siteRows R site)

def get (db : Database) (site : SiteId) (key : K) : Except DbError (Option R) := do
  match (← db.rows R).find? (·.isAt site key) with
  | none => pure none
  | some row => row.read.map some

def count (db : Database) (site : SiteId) : Except DbError Nat :=
  (db.siteRows R site).map List.length

def rowIds (db : Database) (site : SiteId) : Except DbError (List RowId) := do
  let rows ← db.siteRows R site
  pure ((rows.mergeSort fun a b =>
    NaturalKey.le (Resource.key a.record) (Resource.key b.record)).map (·.id))

end

def isActive (db : Database) (site : SiteId) (name : String) : Except DbError Bool := do
  pure ((← db.get SitePlugin site name).any (·.status.isActive))

/-- A damaged stock status equals no status. -/
def hasStockStatus (status : StockStatus) (row : Row Product) : Bool :=
  row.record.stockStatus = status && row.damage.all (·.column ≠ "stock_status")

def listByStockStatus (db : Database) (site : SiteId) (status : StockStatus) :
    Except DbError (List Product) := do
  readListed ((← db.siteRows Product site).filter (hasStockStatus status))

/-- The oldest coupon with a code, in any letter case. Blanks around the wanted code are ignored. -/
def findByCode (db : Database) (site : SiteId) (code : String) :
    Except DbError (Option Coupon) := do
  let wanted := Text.trimmed code
  match (← db.siteRows Coupon site).find? (eqNoCase ·.record.code wanted) with
  | none => pure none
  | some row => row.read.map some

end SiteCache.Store.Database
