import SiteCache.Plan
import SiteCache.Store.Table
import SiteCache.Summary

/-!
A write session: changes to the contents of the store that become visible together, or never. A
statement that fails changes nothing, and the session goes on.
-/

set_option autoImplicit false

namespace SiteCache.Store

/-- What the engine is asked to do: a statement, or what one does to a row that it matches. -/
inductive Statement where
  | begin
  | commit
  | find (kind : ResourceKind) (site : SiteId) (key : KeyValue)
  | insert (kind : ResourceKind) (site : SiteId) (key : KeyValue)
  | update (kind : ResourceKind) (site : SiteId) (key : KeyValue)
  | delete (kind : ResourceKind) (site : SiteId)
  | updateRow (kind : ResourceKind) (site : SiteId) (key : KeyValue)
  | deleteRow (kind : ResourceKind) (site : SiteId) (key : KeyValue)
  deriving DecidableEq, Repr

inductive RowEvent where
  | insert
  | update
  | delete
  deriving DecidableEq, Repr

def RowEvent.isIn (event : RowEvent) (kind : ResourceKind) (key : KeyValue) : Statement → Bool
  | .insert k _ v => event = .insert && k = kind && v = key
  | .updateRow k _ v => event = .update && k = kind && v = key
  | .deleteRow k _ v => event = .delete && k = kind && v = key
  | _ => false

abbrev Refusal := Statement → Option DbError

structure Session where
  contents : Contents
  supply : Nat
  migrated : Bool
  refuses : Refusal

abbrev SessionM (α : Type) := ExceptT DbError (StateM Session) α

namespace Session

variable {R K : Type} [DecidableEq K] [NaturalKey K] [Cached R K]

def noTable (R : Type) {K : Type} [DecidableEq K] [NaturalKey K] [Cached R K] : DbError :=
  (EngineError.statement ("no such table: " ++ Cached.table R)).toDbError

def accept (R : Type) {K : Type} [DecidableEq K] [NaturalKey K] [Cached R K]
    (statements : List Statement) : SessionM (List (Row R)) := do
  let s ← get
  if s.migrated then
    match statements.findSome? s.refuses with
    | some e => throw e
    | none => pure (Cached.rows s.contents)
  else throw (noTable R)

def store (rows : List (Row R)) : SessionM Unit :=
  modify fun s => { s with contents := Cached.setRows s.contents rows }

def find (R : Type) {K : Type} [DecidableEq K] [NaturalKey K] [Cached R K] (site : SiteId)
    (key : K) : SessionM (Option RowId) := do
  let rows ← accept R [.find (Resource.kind R) site (NaturalKey.value key)]
  pure ((rows.find? (·.isAt site key)).map (·.id))

def fieldText (R : Type) {K : Type} [DecidableEq K] [NaturalKey K] [Cached R K]
    (column : String) : String :=
  Cached.table R ++ "." ++ column

def duplicate (R : Type) {K : Type} [DecidableEq K] [NaturalKey K] [Cached R K] : DbError :=
  (EngineError.statement (uniquenessText ++ fieldText R "site_id" ++ ", " ++
    fieldText R (Cached.keyColumn R))).toDbError

def freshId : SessionM RowId := do
  let s ← get
  set { s with supply := s.supply + 1 }
  pure (.issued s.supply)

def insert (r : R) : SessionM RowId := do
  let site := Resource.site r
  let key := Resource.key r
  let rows ← accept R [.insert (Resource.kind R) site (NaturalKey.value key)]
  if rows.any (·.isAt site key) then throw (duplicate R)
  else
    let id ← freshId
    store (rows ++ [⟨id, r, []⟩])
    pure id

/-- Overwrites the record of the row with a local id, all but its site and its key. -/
def update (id : RowId) (r : R) : SessionM Unit := do
  let rows ← accept R [.update (Resource.kind R) (Resource.site r)
    (NaturalKey.value (Resource.key r))]
  match rows.find? (·.id = id) with
  | none => throw (.notFound (Cached.table R) id)
  | some row =>
    let _ ← accept R [.updateRow (Resource.kind R) (Resource.site row.record)
      (NaturalKey.value (Resource.key row.record))]
    store (rows.map fun row => if row.id = id then row.overwrite r else row)

/-- Deletes the rows of a site that `stale` picks, and returns their number. -/
def deleteWhere (R : Type) {K : Type} [DecidableEq K] [NaturalKey K] [Cached R K] (site : SiteId)
    (stale : K → Bool) : SessionM Nat := do
  let rows ← accept R [.delete (Resource.kind R) site]
  let doomed (row : Row R) : Bool := row.isOf site && stale (Resource.key row.record)
  let _ ← accept R ((rows.filter doomed).map fun row =>
    .deleteRow (Resource.kind R) site (NaturalKey.value (Resource.key row.record)))
  store (rows.filter fun row => !doomed row)
  pure (rows.countP doomed)

def deleteStale (R : Type) {K : Type} [DecidableEq K] [NaturalKey K] [Cached R K] (site : SiteId)
    (keys : List K) : SessionM Nat :=
  deleteWhere R site fun key => !keys.contains key

def deleteAll (R : Type) {K : Type} [DecidableEq K] [NaturalKey K] [Cached R K] (site : SiteId) :
    SessionM Nat :=
  deleteWhere R site fun _ => true

def upsert (site : SiteId) (summary : Summary) (r : R) : SessionM Summary := do
  match ← find R site (Resource.key r) with
  | some id =>
    update id r
    pure { summary with updated := summary.updated + 1 }
  | none =>
    let _ ← insert r
    pure { summary with inserted := summary.inserted + 1 }

def apply (plan : Plan R) : SessionM Summary := do
  let summary ← plan.records.foldlM (upsert plan.site) Summary.zero
  if plan.mode.deletesStale then
    let deleted ← deleteStale R plan.site plan.keys
    pure { summary with deleted := deleted }
  else pure summary

end Session

end SiteCache.Store
