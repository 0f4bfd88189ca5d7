import SiteCache.Config.Basic
import SiteCache.Text.Split

set_option autoImplicit false

namespace SiteCache

abbrev Variables := String → Option String

def Variables.read {α : Type} (vars : Variables) (name : String) (reader : String → Option α) :
    Option α :=
  (vars name).bind reader

namespace Config

def urlVariable : String := "SHOPSYNC_API_URL"

def databaseVariable : String := "SHOPSYNC_DB_PATH"

def sitesVariable : String := "SHOPSYNC_SITE_IDS"

def pageSizeVariable : String := "SHOPSYNC_PAGE_SIZE"

def maxPagesVariable : String := "SHOPSYNC_MAX_PAGES"

def timeoutVariable : String := "SHOPSYNC_TIMEOUT_SECS"

def isComma (c : Char) : Bool := c = ','

def readSites (s : String) : Option (List Int64) :=
  let parts := (Text.splitOn isComma s.toList).map Text.trim
  (parts.filter fun part => !part.isEmpty).mapM fun part => (Text.readInt64 part).toOption

def readUInt32 (s : String) : Option UInt32 := (Text.readUInt32 s.toList).toOption

def readUInt64 (s : String) : Option UInt64 := (Text.readUInt64 s.toList).toOption

def override (c : Config) (vars : Variables) : Config :=
  { c with
    baseUrl := (vars urlVariable).getD c.baseUrl
    timeoutSecs := (vars.read timeoutVariable readUInt64).getD c.timeoutSecs
    pageSize := (vars.read pageSizeVariable readUInt32).getD c.pageSize
    maxPages := (vars.read maxPagesVariable readUInt32).getD c.maxPages
    siteIds := (vars.read sitesVariable readSites).getD c.siteIds
    databasePath := (vars databaseVariable).or c.databasePath }

end Config

end SiteCache
