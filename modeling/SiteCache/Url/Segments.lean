import SiteCache.Url.Percent

set_option autoImplicit false

namespace SiteCache.Url

def isDotSegment (s : String) : Bool := s ∈ [".", "%2e", "%2E"]

def isUpSegment (s : String) : Bool :=
  s ∈ ["..", "%2e%2e", "%2e%2E", "%2E%2e", "%2E%2E", "%2e.", "%2E.", ".%2e", ".%2E"]

/-- A letter and a colon at the start of a file path name a drive, which is not left again. -/
def isDrive (s : String) : Bool :=
  match s.toList with
  | [c, d] => c.isAlpha && d = ':'
  | _ => false

def leave (ofFile : Bool) (segments : List String) : List String :=
  match segments with
  | [s] => if ofFile && isDrive s then [s] else []
  | _ => segments.dropLast

/-- Goes on from a path by one more segment. A path that ends in a dot segment ends in a slash. -/
def follow (ofFile : Bool) (segments : List String) (s : String) (isLast : Bool) : List String :=
  if isUpSegment s then
    let up := leave ofFile segments
    if isLast then up ++ [""] else up
  else if isDotSegment s then
    if isLast then segments ++ [""] else segments
  else segments ++ [s]

def followAll (ofFile : Bool) : List String → List String → List String
  | segments, [] => segments
  | segments, [s] => follow ofFile segments s true
  | segments, s :: rest => followAll ofFile (follow ofFile segments s false) rest

def segmentsText (segments : List String) : List Char :=
  segments.flatMap fun s => '/' :: s.toList

def dropLastIfEmpty (segments : List String) : List String :=
  if 1 < segments.length ∧ segments.getLast? = some "" then segments.dropLast else segments

def isIgnored (c : Char) : Bool := c = '\t' || c = '\n' || c = '\r'

def encodeSegment (special : Bool) (s : String) : String :=
  .ofList (percentEncode (escapedInSegment special) (s.toList.filter fun c => !isIgnored c))

/-- Appends a segment that is given on its own; dot segments are left out. The path of a lone slash
has no segment yet. -/
def appendSegment (special ofFile : Bool) (segments : List String) (s : String) : List String :=
  if s = "." ∨ s = ".." then segments
  else
    follow ofFile (if segments = [""] then [] else segments) (encodeSegment special s) true

end SiteCache.Url
