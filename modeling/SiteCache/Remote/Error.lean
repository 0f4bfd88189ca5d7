import SiteCache.Text.Decimal

set_option autoImplicit false

namespace SiteCache.Remote

inductive RemoteError where
  | network (reason : String)
  | http (status : Nat) (body : String)
  | decoding (reason : String)
  | timeout
  deriving DecidableEq, Repr

namespace RemoteError

def message : RemoteError → String
  | .network reason => "Network error: " ++ reason
  | .http status body => "HTTP " ++ Text.natText status ++ ": " ++ body
  | .decoding reason => "Failed to decode response: " ++ reason
  | .timeout => "Request timed out"

def label : RemoteError → String
  | .network _ => "Network"
  | .http .. => "Http"
  | .decoding _ => "Decoding"
  | .timeout => "Timeout"

def isRetryable : RemoteError → Bool
  | .network _ | .timeout => true
  | .http status _ => status = 429 || 500 ≤ status
  | .decoding _ => false

end RemoteError

end SiteCache.Remote
