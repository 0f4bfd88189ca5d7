import SiteCache.Sync.Callback
import SiteCache.Text.Column

set_option autoImplicit false

namespace SiteCache.Program

open Sync (SyncResult)

structure Told where
  kind : ResourceKind
  site : SiteId
  result : SyncResult

namespace Told

def resultText (t : Told) : String :=
  match t.result with
  | .ok summary => summary.text
  | .error e => "FAILED: " ++ e.message ++ if e.isRetryable then " (retryable)" else ""

def line (t : Told) : String :=
  "site " ++ Text.padEnd 8 t.site.text ++ " " ++ Text.padEnd 12 t.kind.name ++ " " ++ t.resultText

def hasFailed (t : Told) : Bool := !t.result.toBool

end Told

def complaint? (expected : Nat) (told : List Told) : Option String :=
  let missing := expected - told.length
  let failed := (told.filter Told.hasFailed).length
  let of (n : Nat) (what : String) : String :=
    Text.natText n ++ " of " ++ Text.natText expected ++ " operations " ++ what
  if 0 < missing then some (of missing "ended without reporting a result")
  else if 0 < failed then some (of failed "failed")
  else none

end SiteCache.Program
