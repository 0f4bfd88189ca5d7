import SiteCache.Record

set_option autoImplicit false

namespace SiteCache

inductive PluginStatus where
  | active
  | inactive
  | networkActive
  | unknown
  deriving DecidableEq, Repr

namespace PluginStatus

def all : List PluginStatus := [.active, .inactive, .networkActive, .unknown]

def name : PluginStatus → String
  | .active => "active"
  | .inactive => "inactive"
  | .networkActive => "network-active"
  | .unknown => "unknown"

def label : PluginStatus → String
  | .active => "Active"
  | .inactive => "Inactive"
  | .networkActive => "NetworkActive"
  | .unknown => "Unknown"

def ofName? (s : String) : Option PluginStatus := all.find? (·.name == s)

def ofName (s : String) : PluginStatus := (ofName? s).getD .unknown

def isActive : PluginStatus → Bool
  | .active | .networkActive => true
  | .inactive | .unknown => false

end PluginStatus

structure SitePlugin where
  site : SiteId
  plugin : String
  status : PluginStatus
  name : String
  pluginUri : String
  author : String
  authorUri : String
  descriptionRaw : String
  descriptionRendered : String
  version : String
  networkOnly : Bool
  requiresWpVersion : String
  requiresPhpVersion : String
  textDomain : String
  deriving DecidableEq, Repr

def SitePlugin.new (site : SiteId) (plugin name : String) (status : PluginStatus) : SitePlugin where
  site := site
  plugin := plugin
  status := status
  name := name
  pluginUri := ""
  author := ""
  authorUri := ""
  descriptionRaw := ""
  descriptionRendered := ""
  version := ""
  networkOnly := false
  requiresWpVersion := ""
  requiresPhpVersion := ""
  textDomain := ""

def SitePlugin.withVersion (p : SitePlugin) (version : String) : SitePlugin :=
  { p with version := version }

instance : Resource SitePlugin String where
  kind := .sitePlugin
  site p := p.site
  key p := p.name
  rekey p site name := { p with site := site, name := name }
  site_rekey _ _ _ := rfl
  key_rekey _ _ _ := rfl
  rekey_self _ := rfl
  rekey_rekey _ _ _ _ _ := rfl

end SiteCache
