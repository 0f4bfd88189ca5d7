import SiteCache.Config.Overrides
import SiteCache.Config.Stored

set_option autoImplicit false

namespace SiteCache.Config

open Store (FileContent)
open Sync (SyncError)

def load (files : Files FileContent) (vars : Variables) (path : String) :
    Except SyncError Config := do
  let c ← if files.contains path then ofFile files path else pure {}
  match (c.override vars).validate with
  | (.ok (), c) => pure c
  | (.error e, _) => throw e

def loadOrDefault (files : Files FileContent) (vars : Variables) (path : String) : Config :=
  match load files vars path with
  | .ok c => c
  | .error _ => {}

def baseDirectory (vars : Variables) (name usual : String) : String :=
  match (vars name).filter fun directory => directory.toList.head? = some '/' with
  | some directory => directory
  | none => Path.join ((vars "HOME").getD "") usual

def defaultPath (vars : Variables) : String :=
  Path.join (baseDirectory vars "XDG_CONFIG_HOME" ".config") "shopsync/shopsync.toml"

def databaseFile (c : Config) (vars : Variables) : String :=
  c.databasePath.getD
    (Path.join (baseDirectory vars "XDG_DATA_HOME" ".local/share") "shopsync/shopsync.db")

end SiteCache.Config
