import SiteCache.Json.Decode
import SiteCache.Json.Value
import SiteCache.Store.Session

set_option autoImplicit false

namespace SiteCache.Store

def keyJson : KeyValue → Json.Value
  | .text s => .string s
  | .integer n => .int n.toInt

def keysText {K : Type} [DecidableEq K] [NaturalKey K] (keys : List K) : String :=
  (Json.Value.array (keys.map fun key => keyJson (NaturalKey.value key))).render

def decodeKey : Json.Decoder KeyValue
  | .string l => (Json.textOf l).map .text
  | node => (Json.Decode.int64 node).map .integer

/-- Deletes the rows of a site whose keys are not among the values that the engine reads in a
text. -/
def Session.deleteUnlisted (R : Type) {K : Type} [DecidableEq K] [NaturalKey K] [Cached R K]
    (valuesIn : String → List KeyValue) (site : SiteId) (text : String) : SessionM Nat :=
  deleteWhere R site fun key => !(valuesIn text).contains (NaturalKey.value key)

end SiteCache.Store
