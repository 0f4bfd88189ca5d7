import SiteCache.Files
import SiteCache.Store.Database

set_option autoImplicit false

namespace SiteCache.Store

inductive FileContent where
  | text (s : String)
  | database (db : Database)

def FileContent.text? : FileContent → Option String
  | .text s => some s
  | .database _ => none

namespace Database

def isTemporary (path : String) : Bool := path = ":memory:" || path = ""

def notDatabase : DbError :=
  .connectionFailed "error returned from database: (code: 26) file is not a database"

def cannotOpen : DbError :=
  .connectionFailed "error returned from database: (code: 14) unable to open database file"

def openFile (files : Files FileContent) (path : String) : Except DbError Database :=
  if isTemporary path then .ok new
  else
    match files.find path with
    | .ok (.file (.database db)) => .ok { db with migrated := true, isOpen := true }
    | .ok (.file (.text s)) => if s.isEmpty then .ok new else .error notDatabase
    | .ok .directory => .error cannotOpen
    | .error _ =>
      match files.write path (.database new) with
      | .ok _ => .ok new
      | .error _ => .error cannotOpen

def closeFile (files : Files FileContent) (path : String) (db : Database) : Files FileContent :=
  if isTemporary path then files
  else (files.write path (.database db)).toOption.getD files

end Database

end SiteCache.Store
