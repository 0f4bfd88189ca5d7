import SiteCache.Record

set_option autoImplicit false

namespace SiteCache

/-- `replace` treats a response as the complete collection and deletes the rows it lacks; `merge`
treats it as a part of the collection and deletes nothing. -/
inductive ReconcileMode where
  | replace
  | merge
  deriving DecidableEq, Repr

namespace ReconcileMode

def all : List ReconcileMode := [.replace, .merge]

def name : ReconcileMode → String
  | .replace => "replace"
  | .merge => "merge"

def label : ReconcileMode → String
  | .replace => "Replace"
  | .merge => "Merge"

def ofName? (s : String) : Option ReconcileMode := all.find? (·.name == s)

def deletesStale : ReconcileMode → Bool
  | .replace => true
  | .merge => false

end ReconcileMode

structure Plan (R : Type) where
  site : SiteId
  mode : ReconcileMode
  records : List R
  skippedForeign : Nat

namespace Plan

variable {R K : Type} [DecidableEq K] [NaturalKey K] [Resource R K]

def insertAbsent (r : R) : List R → List R
  | [] => [r]
  | x :: rest =>
    if Resource.key x == Resource.key r then x :: rest
    else if NaturalKey.le (Resource.key r) (Resource.key x) then r :: x :: rest
    else x :: insertAbsent r rest

def isLocal (site : SiteId) (r : R) : Bool := Resource.site r = site

def build (site : SiteId) (records : List R) (mode : ReconcileMode) : Plan R where
  site := site
  mode := mode
  records := (records.filter (isLocal site)).foldr insertAbsent []
  skippedForeign := records.countP fun r => !isLocal site r

def keys (plan : Plan R) : List K := plan.records.map Resource.key

def isEmpty (plan : Plan R) : Bool := plan.records.isEmpty

end Plan

end SiteCache
