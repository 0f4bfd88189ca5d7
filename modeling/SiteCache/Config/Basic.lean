import SiteCache.Sync.Error
import SiteCache.Sync.PageWalk
import SiteCache.Validation

set_option autoImplicit false

namespace SiteCache

open Sync (SyncError)

structure Config where
  baseUrl : String := "https://public-api.wordpress.com"
  timeoutSecs : UInt64 := 30
  userAgent : String := "shopsync/0.1.0"
  pageSize : UInt32 := defaultPageSize
  maxPages : UInt32 := defaultMaxPages
  siteIds : List Int64 := []
  databasePath : Option String := none
  deriving DecidableEq, Repr

namespace Config

def sites (c : Config) : List SiteId := c.siteIds.map SiteId.mk

def paging (c : Config) : Sync.Paging := .paged c.pageSize c.maxPages

def checkNumbers (c : Config) : Except SyncError Unit :=
  let refuse (e : ValidationError) : SyncError := .invalidConfig e.message
  if c.timeoutSecs = 0 then .error (.invalidConfig "timeout_secs must be greater than 0")
  else do
    (validatePageSize c.pageSize).mapError refuse
    (validateMaxPages c.maxPages).mapError refuse
    c.siteIds.forM fun site => (validateSiteId site).mapError refuse

/-- The outcome, and the configuration after it. A valid URL is brought into its normal form before
the rest is looked at. -/
def validate (c : Config) : Except SyncError Unit × Config :=
  match validateApiUrl c.baseUrl with
  | .error e => (.error (.invalidUrl e.message), c)
  | .ok url => (c.checkNumbers, { c with baseUrl := url })

end Config

end SiteCache
