import SiteCache.Remote.Error
import SiteCache.Site
import SiteCache.Store.Error

set_option autoImplicit false

namespace SiteCache.Sync

inductive SyncError where
  | invalidConfig (reason : String)
  | invalidUrl (reason : String)
  | configLoadFailed (reason : String)
  | configSaveFailed (reason : String)
  | remote (error : Remote.RemoteError)
  | storage (error : Store.DbError)
  | pageLimitExceeded (kind : ResourceKind) (site : SiteId) (maxPages : UInt32)
  | duplicateProcessor (kind : ResourceKind)
  deriving DecidableEq, Repr

namespace SyncError

def message : SyncError → String
  | .invalidConfig reason => "Invalid sync configuration: " ++ reason
  | .invalidUrl reason => "Invalid API URL: " ++ reason
  | .configLoadFailed reason => "Failed to load config: " ++ reason
  | .configSaveFailed reason => "Failed to save config: " ++ reason
  | .remote error => "Remote error: " ++ error.message
  | .storage error => "Storage error: " ++ error.message
  | .pageLimitExceeded kind site maxPages =>
    kind.name ++ " collection for site " ++ site.text ++ " exceeds " ++
      Text.natText maxPages.toNat ++ " pages"
  | .duplicateProcessor kind => "A processor is already registered for " ++ kind.name ++ " actions"

def label : SyncError → String
  | .invalidConfig _ => "InvalidConfig"
  | .invalidUrl _ => "InvalidUrl"
  | .configLoadFailed _ => "ConfigLoadFailed"
  | .configSaveFailed _ => "ConfigSaveFailed"
  | .remote error => "Remote." ++ error.label
  | .storage error => "Storage." ++ error.label
  | .pageLimitExceeded .. => "PageLimitExceeded"
  | .duplicateProcessor _ => "DuplicateProcessor"

def isRetryable : SyncError → Bool
  | .remote error => error.isRetryable
  | .storage error => error.isTransient
  | _ => false

def isConfigError : SyncError → Bool
  | .invalidConfig _ | .invalidUrl _ | .configLoadFailed _ | .configSaveFailed _ => true
  | _ => false

end SyncError

/-- How an operation ends without a value: with an error that its caller receives, or with a crash
that ends whatever ran it. -/
inductive Failure where
  | error (e : SyncError)
  | crash (text : String)
  deriving DecidableEq, Repr

abbrev Outcome (α : Type) := Except Failure α

def fail {α : Type} (e : SyncError) : Outcome α := .error (.error e)

def crash {α : Type} (text : String) : Outcome α := .error (.crash text)

end SiteCache.Sync
