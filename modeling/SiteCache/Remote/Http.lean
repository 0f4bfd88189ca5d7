import SiteCache.Codec.Wire
import SiteCache.Json.Octets
import SiteCache.Remote.Endpoint
import SiteCache.Remote.Service

set_option autoImplicit false

namespace SiteCache.Remote

structure Response where
  status : Nat
  body : List UInt8
  deriving DecidableEq, Repr

inductive TransportError where
  | failed (reason : String)
  | timedOut
  deriving DecidableEq, Repr

structure Transport (σ : Type) where
  get : Url → StateM σ (Except TransportError Response)

def TransportError.toRemoteError : TransportError → RemoteError
  | .failed reason => .network reason
  | .timedOut => .timeout

def recordDecoder (site : SiteId) : (k : ResourceKind) → Json.Decoder (RecordOf k)
  | .sitePlugin => Codec.Wire.sitePlugin site
  | .product => Codec.Wire.product site
  | .coupon => Codec.Wire.coupon site

def decodePage (k : ResourceKind) (site : SiteId) (body : List UInt8) :
    Except RemoteError (List (RecordOf k)) :=
  ((Json.Document.ofOctets body).decode (Json.Decode.list (recordDecoder site k))).mapError fun e =>
    .decoding e.message

def isSuccess (status : Nat) : Bool := 200 ≤ status && status < 300

def readResponse (k : ResourceKind) (site : SiteId) (r : Response) :
    Except RemoteError (List (RecordOf k)) :=
  if isSuccess r.status then decodePage k site r.body
  else .error (.http r.status (Text.readOctets r.body))

def Reply.ofExcept {α : Type} : Except RemoteError α → Reply α
  | .ok a => .records a
  | .error e => .failed e

def httpService {σ : Type} (base : Url) (transport : Transport σ) : Service σ where
  list k site q := do
    match ← transport.get (endpoint base site (.of k) q) with
    | .error e => pure (.failed e.toRemoteError)
    | .ok response => pure (.ofExcept (readResponse k site response))

def unsentText (url : Url) : String := "error sending request for url (" ++ url.render ++ ")"

def Transport.unreachable {σ : Type} : Transport σ where
  get url := pure (.error (.failed (unsentText url)))

def isHeaderChar (c : Char) : Bool := (0x20 ≤ c.toNat && c.toNat ≠ 0x7F) || c = '\t'

end SiteCache.Remote
