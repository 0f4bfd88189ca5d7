import SiteCache.Text.Decimal

set_option autoImplicit false

namespace SiteCache.Store

/-- The local identity of a row: a number that the store has issued, or a text that it has not. -/
inductive RowId where
  | issued (n : Nat)
  | other (text : String)
  deriving DecidableEq, Repr

def RowId.text : RowId → String
  | .issued n => "row " ++ Text.natText n
  | .other text => text

inductive DbError where
  | notFound (entity : String) (id : RowId)
  | uniqueViolation (field value : String)
  | connectionFailed (reason : String)
  | migrationFailed (reason : String)
  | queryFailed (reason : String)
  | transactionFailed (reason : String)
  | encoding (reason : String)
  | poolExhausted
  | internal (reason : String)
  deriving DecidableEq, Repr

namespace DbError

def message : DbError → String
  | .notFound entity id => entity ++ " not found: " ++ id.text
  | .uniqueViolation field value => "Duplicate " ++ field ++ ": '" ++ value ++ "' already exists"
  | .connectionFailed reason => "Connection failed: " ++ reason
  | .migrationFailed reason => "Migration failed: " ++ reason
  | .queryFailed reason => "Query failed: " ++ reason
  | .transactionFailed reason => "Transaction failed: " ++ reason
  | .encoding reason => "Encoding failed: " ++ reason
  | .poolExhausted => "Connection pool exhausted"
  | .internal reason => "Internal database error: " ++ reason

def label : DbError → String
  | .notFound .. => "NotFound"
  | .uniqueViolation .. => "UniqueViolation"
  | .connectionFailed _ => "ConnectionFailed"
  | .migrationFailed _ => "MigrationFailed"
  | .queryFailed _ => "QueryFailed"
  | .transactionFailed _ => "TransactionFailed"
  | .encoding _ => "Encoding"
  | .poolExhausted => "PoolExhausted"
  | .internal _ => "Internal"

def isTransient : DbError → Bool
  | .poolExhausted | .connectionFailed _ | .transactionFailed _ => true
  | _ => false

end DbError

inductive EngineError where
  | rowNotFound
  | poolTimedOut
  | poolClosed
  | statement (message : String)
  | protocol (text : String)
  | columnNotFound (name : String)
  | undecodable (column value choice : String)
  deriving DecidableEq, Repr

def uniquenessText : String := "UNIQUE constraint failed: "

def EngineError.uniqueFields? (message : String) : Option String :=
  if uniquenessText.toList.isPrefixOf message.toList then
    some (.ofList (message.toList.drop uniquenessText.length))
  else none

def EngineError.toDbError : EngineError → DbError
  | .rowNotFound => .notFound "Row" (.other "unknown")
  | .poolTimedOut => .poolExhausted
  | .poolClosed => .connectionFailed "Pool is closed"
  | .statement message =>
    match uniqueFields? message with
    | some fields => .uniqueViolation fields "unknown"
    | none => .queryFailed message
  | .protocol text => .internal ("encountered unexpected or invalid data: " ++ text)
  | .columnNotFound name => .internal ("no column found for name: " ++ name)
  | .undecodable column value choice =>
    .internal ("error occurred while decoding column \"" ++ column ++ "\": invalid value \"" ++
      value ++ "\" for enum " ++ choice)

inductive MigrationError where
  | missing (version : Int)
  | modified (version : Int)
  | poolClosed
  deriving DecidableEq, Repr

def closedPoolText : String := "attempted to acquire a connection on a closed pool"

def MigrationError.message : MigrationError → String
  | .missing version =>
    "migration " ++ Text.intText version ++
      " was previously applied but is missing in the resolved migrations"
  | .modified version =>
    "migration " ++ Text.intText version ++ " was previously applied but has been modified"
  | .poolClosed => "while executing migrations: " ++ closedPoolText

def MigrationError.toDbError (e : MigrationError) : DbError := .migrationFailed e.message

end SiteCache.Store
