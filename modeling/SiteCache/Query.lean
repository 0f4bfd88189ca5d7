import SiteCache.Product

set_option autoImplicit false

namespace SiteCache

def firstPageNumber : UInt32 := 1

def defaultPageSize : UInt32 := 25

def maxPageSize : UInt32 := 100

def defaultMaxPages : UInt32 := 200

structure Page where
  number : UInt32
  size : UInt32
  deriving DecidableEq, Repr

def Page.first (size : UInt32) : Page := ⟨firstPageNumber, size⟩

def Page.next? (page : Page) : Option Page :=
  if page.number.toNat + 1 < UInt32.size then some ⟨page.number + 1, page.size⟩ else none

abbrev Pairs := List (String × String)

structure ListQuery where
  page : Option Page
  params : Pairs
  deriving DecidableEq, Repr

namespace ListQuery

def unpaged : ListQuery := ⟨none, []⟩

def paged (page : Page) : ListQuery := ⟨some page, []⟩

def withParams (q : ListQuery) (params : Pairs) : ListQuery :=
  ⟨q.page, q.params ++ params⟩

def withParam (q : ListQuery) (key value : String) : ListQuery :=
  q.withParams [(key, value)]

def atPage (q : ListQuery) (page : Page) : ListQuery := ⟨some page, q.params⟩

def toPairs (q : ListQuery) : Pairs :=
  (match q.page with
    | none => []
    | some page =>
      [("page", Text.natText page.number.toNat), ("per_page", Text.natText page.size.toNat)]) ++
    q.params

end ListQuery

structure ProductFilter where
  stockStatus : Option StockStatus
  productStatus : Option ProductStatus
  productType : Option ProductType
  deriving DecidableEq, Repr

namespace ProductFilter

def none : ProductFilter := ⟨.none, .none, .none⟩

def isEmpty (f : ProductFilter) : Bool :=
  f.stockStatus.isNone && f.productStatus.isNone && f.productType.isNone

def params (f : ProductFilter) : Pairs :=
  (f.stockStatus.map fun s => ("stock_status", s.name)).toList ++
    (f.productStatus.map fun s => ("status", s.name)).toList ++
    (f.productType.map fun t => ("type", t.name)).toList

end ProductFilter

inductive ProductSortOrder where
  | nameAscending
  | nameDescending
  | dateAscending
  | dateDescending
  deriving DecidableEq, Repr

namespace ProductSortOrder

def all : List ProductSortOrder :=
  [.nameAscending, .nameDescending, .dateAscending, .dateDescending]

def name : ProductSortOrder → String
  | .nameAscending => "name_ascending"
  | .nameDescending => "name_descending"
  | .dateAscending => "date_ascending"
  | .dateDescending => "date_descending"

def label : ProductSortOrder → String
  | .nameAscending => "NameAscending"
  | .nameDescending => "NameDescending"
  | .dateAscending => "DateAscending"
  | .dateDescending => "DateDescending"

def shortName : ProductSortOrder → String
  | .nameAscending => "name_asc"
  | .nameDescending => "name_desc"
  | .dateAscending => "date_asc"
  | .dateDescending => "date_desc"

def orderBy : ProductSortOrder → String
  | .nameAscending | .nameDescending => "title"
  | .dateAscending | .dateDescending => "date"

def order : ProductSortOrder → String
  | .nameAscending | .dateAscending => "asc"
  | .nameDescending | .dateDescending => "desc"

def params (o : ProductSortOrder) : Pairs := [("orderby", o.orderBy), ("order", o.order)]

def ofName? (s : String) : Option ProductSortOrder := all.find? (·.name == s)

def parse (s : String) : Except DomainError ProductSortOrder :=
  let lowered := Text.lowercase s
  if lowered = "name" then .ok .nameAscending
  else if lowered = "date" then .ok .dateDescending
  else
    match all.find? (·.shortName == lowered) with
    | some order => .ok order
    | none => .error (.unknownSortOrder lowered)

end ProductSortOrder

end SiteCache
