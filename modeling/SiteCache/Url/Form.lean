import SiteCache.Query
import SiteCache.Text.Split
import SiteCache.Url.Percent

set_option autoImplicit false

namespace SiteCache.Url.Form

def isPlain (c : Char) : Bool := c.isAlphanum || c ∈ ['*', '-', '.', '_']

def encodeChar (c : Char) : List Char :=
  if c = ' ' then ['+'] else if isPlain c then [c] else percentChar c

def encodeText (s : String) : List Char := s.toList.flatMap encodeChar

def encodePair (pair : String × String) : List Char :=
  encodeText pair.1 ++ '=' :: encodeText pair.2

def encode : Pairs → List Char
  | [] => []
  | [pair] => encodePair pair
  | pair :: rest => encodePair pair ++ '&' :: encode rest

def decodeText (s : List Char) : String :=
  Text.readOctets (percentDecode (s.map fun c => if c = '+' then ' ' else c))

def decodePair (s : List Char) : String × String :=
  match Text.splitFirst? (· = '=') s with
  | some (name, value) => (decodeText name, decodeText value)
  | none => (decodeText s, "")

def decode (query : List Char) : Pairs :=
  ((Text.splitOn (· = '&') query).filter fun piece => !piece.isEmpty).map decodePair

end SiteCache.Url.Form
