import SiteCache.Store.Session

set_option autoImplicit false

namespace SiteCache.Store

structure Database where
  contents : Contents
  supply : Nat
  migrated : Bool
  isOpen : Bool
  refuses : Refusal

namespace Database

def new : Database := ⟨.empty, 0, true, true, fun _ => none⟩

def bare : Database := { new with migrated := false }

def close (db : Database) : Database := { db with isOpen := false }

def begin (db : Database) : Except DbError Session :=
  if db.isOpen then
    match db.refuses .begin with
    | some e => .error e
    | none => .ok ⟨db.contents, db.supply, db.migrated, db.refuses⟩
  else .error (.transactionFailed closedPoolText)

/-- Row ids that a session has used are not issued again, whatever becomes of it. -/
def rollback (db : Database) (session : Session) : Database :=
  { db with supply := session.supply }

def commit (db : Database) (session : Session) : Except DbError Unit × Database :=
  match session.refuses .commit with
  | some e => (.error e, db.rollback session)
  | none => (.ok (), { db with contents := session.contents, supply := session.supply })

def migrate (db : Database) : Except DbError Database :=
  if db.isOpen then .ok { db with migrated := true }
  else .error MigrationError.poolClosed.toDbError

def rows (R : Type) {K : Type} [DecidableEq K] [NaturalKey K] [Cached R K] (db : Database) :
    Except DbError (List (Row R)) :=
  if !db.isOpen then .error EngineError.poolClosed.toDbError
  else if db.migrated then .ok (Cached.rows db.contents)
  else .error (Session.noTable R)

def migrationStatus (db : Database) : Except DbError (Nat × Nat) :=
  if !db.isOpen then .error EngineError.poolClosed.toDbError
  else if db.migrated then .ok (1, 1)
  else .error (EngineError.statement "no such table: _sqlx_migrations").toDbError

/-- From now on an event of the row for a key is refused with a message. -/
def reject (db : Database) (event : RowEvent) (kind : ResourceKind) (key : KeyValue)
    (message : String) : Database :=
  let refuses (statement : Statement) : Option DbError :=
    (db.refuses statement).or
      (if event.isIn kind key statement then some (EngineError.statement message).toDbError
        else none)
  { db with refuses := refuses }

end Database

end SiteCache.Store
