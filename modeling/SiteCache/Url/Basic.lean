import SiteCache.Url.Form
import SiteCache.Url.Host
import SiteCache.Url.Segments

set_option autoImplicit false

namespace SiteCache

structure Authority where
  userinfo : String
  host : Url.Host
  port : Option UInt16
  deriving DecidableEq, Repr

inductive UrlPath where
  | undivided (text : String)
  | segments (list : List String)
  deriving DecidableEq, Repr

structure Url where
  scheme : String
  authority : Option Authority
  path : UrlPath
  query : Option String
  fragment : Option String
  deriving DecidableEq, Repr

namespace Authority

def render (a : Authority) : List Char :=
  (if a.userinfo = "" then [] else a.userinfo.toList ++ ['@']) ++ a.host.text ++
    match a.port with
    | none => []
    | some port => ':' :: Text.digitsOf port.toNat

end Authority

namespace Url

/-- The schemes whose URLs have a host and always a path, with the port that each implies. -/
def impliedPort? : String → Option (Option UInt16)
  | "http" | "ws" => some (some 80)
  | "https" | "wss" => some (some 443)
  | "ftp" => some (some 21)
  | "file" => some none
  | _ => none

def isSpecialScheme (scheme : String) : Bool := (impliedPort? scheme).isSome

def isSpecial (u : Url) : Bool := isSpecialScheme u.scheme

/-- Without an authority, two slashes at the start of a path would be read as one. -/
def pathGuard (u : Url) : List Char :=
  match u.authority, u.path with
  | none, .segments ("" :: _ :: _) => ['/', '.']
  | _, _ => []

def pathText (u : Url) : List Char :=
  match u.path with
  | .undivided text => text.toList
  | .segments list => segmentsText list

def authorityText (u : Url) : List Char :=
  match u.authority with
  | none => []
  | some a => '/' :: '/' :: a.render

def marked (mark : Char) : Option String → List Char
  | none => []
  | some s => mark :: s.toList

def chars (u : Url) : List Char :=
  u.scheme.toList ++ ':' :: u.authorityText ++ u.pathGuard ++ u.pathText ++ marked '?' u.query ++
    marked '#' u.fragment

def render (u : Url) : String := .ofList u.chars

/-- Appends segments after the last one that is not empty. A path that is not divided stays. -/
def appendSegments (u : Url) (list : List String) : Url :=
  match u.path with
  | .undivided _ => u
  | .segments own =>
    let append := appendSegment u.isSpecial (u.scheme = "file")
    { u with path := .segments (list.foldl append (dropLastIfEmpty own)) }

def appendPairs (u : Url) : Pairs → Url
  | [] => u
  | pairs =>
    let own := (u.query.getD "").toList
    let joined := if own.isEmpty then Form.encode pairs else own ++ '&' :: Form.encode pairs
    { u with query := some (.ofList joined) }

def queryPairs (u : Url) : Pairs := Form.decode (u.query.getD "").toList

end Url

end SiteCache
