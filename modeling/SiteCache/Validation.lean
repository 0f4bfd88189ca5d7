import SiteCache.Query
import SiteCache.Text.Blank

set_option autoImplicit false

namespace SiteCache

def validatePageSize (size : UInt32) : Except ValidationError Unit :=
  if size = 0 ∨ maxPageSize < size then .error (.outOfRange "page_size" 1 maxPageSize.toNat)
  else .ok ()

def validateMaxPages (maxPages : UInt32) : Except ValidationError Unit :=
  if maxPages = 0 then .error (.mustBePositive "max_pages") else .ok ()

def validateSiteId (site : Int64) : Except ValidationError Unit :=
  if site ≤ 0 then .error (.mustBePositive "site_id") else .ok ()

def isSlash (c : Char) : Bool := c = '/'

def afterScheme? (url : List Char) : Option (List Char) :=
  if "https://".toList.isPrefixOf url then some (url.drop 8)
  else if "http://".toList.isPrefixOf url then some (url.drop 7)
  else none

def validateApiUrl (url : String) : Except ValidationError String :=
  let trimmed := Text.trim url.toList
  if trimmed.isEmpty then .error (.required "api.base_url")
  else
    match afterScheme? trimmed with
    | none => .error (.invalidFormat "api.base_url" "must start with http:// or https://")
    | some rest =>
      if rest.all isSlash then .error (.invalidFormat "api.base_url" "missing host")
      else .ok (.ofList (Text.dropEndWhile isSlash trimmed))

end SiteCache
