import SiteCache.Plan
import SiteCache.Query

set_option autoImplicit false

namespace SiteCache.Sync

def productQuery (filter : ProductFilter) (order : ProductSortOrder) : ListQuery :=
  (ListQuery.unpaged.withParams order.params).withParams filter.params

def productMode (filter : ProductFilter) : ReconcileMode :=
  if filter.isEmpty then .replace else .merge

end SiteCache.Sync
