import SiteCache.Config.Basic
import SiteCache.Store.File
import SiteCache.Toml.Reading
import SiteCache.Toml.Writing

set_option autoImplicit false

namespace SiteCache.Config

open Store (FileContent)
open Sync (SyncError)
open Toml (Value Entries Section)

/-- Where the settings of a section come from: by name from a table, or in order from an array. -/
inductive Source where
  | named (entries : Entries)
  | ordered (items : List Value)

def Source.ofValue : Value → Option Source
  | .table _ entries => some (.named entries)
  | .tables items => some (.ordered (items.map (.table .defined)))
  | .array items => some (.ordered items)
  | .moment _ => some (.named [])
  | _ => none

def Source.get? (source : Source) (place : Nat) (name : String) : Option Value :=
  match source with
  | .named entries => entries.get? name
  | .ordered items => items[place]?

def Source.setting {α : Type} (source : Source) (place : Nat) (name : String)
    (reader : Value → Option α) (default : α) : Option α :=
  match source.get? place name with
  | none => some default
  | some value => reader value

def sectionOf (entries : Entries) (name : String) : Option Source :=
  match entries.get? name with
  | none => some (.named [])
  | some value => Source.ofValue value

def text : Value → Option String
  | .string s => some s
  | _ => none

def integer : Value → Option Int64
  | .integer n => some n
  | _ => none

def integers : Value → Option (List Int64)
  | .array items => items.mapM integer
  | _ => none

def natural (limit : Nat) (value : Value) : Option Nat :=
  match integer value with
  | some n => if 0 ≤ n.toInt ∧ n.toInt ≤ limit then some n.toInt.toNat else none
  | none => none

def natural32 (value : Value) : Option UInt32 := (natural (UInt32.size - 1) value).map UInt32.ofNat

def natural64 (value : Value) : Option UInt64 := (natural (UInt64.size - 1) value).map UInt64.ofNat

def ofEntries (entries : Entries) : Option Config := do
  let default : Config := {}
  let api ← sectionOf entries "api"
  let sync ← sectionOf entries "sync"
  let database ← sectionOf entries "database"
  pure {
    baseUrl := ← api.setting 0 "base_url" text default.baseUrl
    timeoutSecs := ← api.setting 1 "timeout_secs" natural64 default.timeoutSecs
    userAgent := ← api.setting 2 "user_agent" text default.userAgent
    pageSize := ← sync.setting 0 "page_size" natural32 default.pageSize
    maxPages := ← sync.setting 1 "max_pages" natural32 default.maxPages
    siteIds := ← sync.setting 2 "site_ids" integers default.siteIds
    databasePath := ← database.setting 0 "path" (fun value => (text value).map some) none }

def ofText (s : String) : Except SyncError Config :=
  match (Toml.read s).bind ofEntries with
  | some c => .ok c
  | none => .error (.configLoadFailed "TOML parse error")

def sections (c : Config) : List Section :=
  [⟨"api", [("base_url", .text c.baseUrl), ("timeout_secs", .number c.timeoutSecs.toNat),
      ("user_agent", .text c.userAgent)]⟩,
    ⟨"sync", [("page_size", .number c.pageSize.toNat), ("max_pages", .number c.maxPages.toNat),
      ("site_ids", .numbers (c.siteIds.map Int64.toInt))]⟩,
    ⟨"database", c.databasePath.toList.map fun path => ("path", .text path)⟩]

def toText (c : Config) : Except String String :=
  if c.timeoutSecs.toNat ≤ Text.maxInt64 then .ok (Toml.write c.sections)
  else .error "out-of-range value for u64 type"

def ofFile (files : Files FileContent) (path : String) : Except SyncError Config :=
  match files.read path with
  | .error e => .error (.configLoadFailed e.message)
  | .ok content =>
    match content.text? with
    | some s => ofText s
    | none => .error (.configLoadFailed "stream did not contain valid UTF-8")

/-- The outcome, and the files after it. The file is left as it was unless there is a text to be
written. -/
def save (c : Config) (files : Files FileContent) (path : String) :
    Except SyncError Unit × Files FileContent :=
  match files.createParent path with
  | .error e => (.error (.configSaveFailed e.message), files)
  | .ok files =>
    match c.toText with
    | .error reason => (.error (.configSaveFailed reason), files)
    | .ok s =>
      match files.write path (.text s) with
      | .error e => (.error (.configSaveFailed e.message), files)
      | .ok files => (.ok (), files)

end SiteCache.Config
