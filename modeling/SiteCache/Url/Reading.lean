import SiteCache.Text.Blank
import SiteCache.Url.Basic

set_option autoImplicit false

namespace SiteCache.Url

def isMargin (c : Char) : Bool := c.toNat ≤ 0x20

def significant (s : List Char) : List Char :=
  (Text.dropEndWhile isMargin (s.dropWhile isMargin)).filter fun c => !isIgnored c

def isSchemeChar (c : Char) : Bool := c.isAlphanum || c ∈ ['+', '-', '.']

def readScheme (s : List Char) : Option (String × List Char) := do
  let (scheme, rest) ← Text.splitFirst? (· = ':') s
  let first ← scheme.head?
  if first.isAlpha && scheme.all isSchemeChar then
    some (.ofList (scheme.map Char.toLower), rest)
  else none

structure Body where
  front : List Char
  query : Option (List Char)
  fragment : Option (List Char)

def Body.ofChars (s : List Char) : Body :=
  let (s, fragment) :=
    match Text.splitFirst? (· = '#') s with
    | some (s, fragment) => (s, some fragment)
    | none => (s, none)
  match Text.splitFirst? (· = '?') s with
  | some (front, query) => ⟨front, some query, fragment⟩
  | none => ⟨s, none, fragment⟩

def isSlash (special : Bool) (c : Char) : Bool := c = '/' || (special && c = '\\')

def readPassword (password : List Char) : List Char :=
  if password.isEmpty then [] else ':' :: percentEncode escapedInUserinfo password

def encodeUserinfo (s : List Char) : String :=
  .ofList (match Text.splitFirst? isColon s with
    | none => percentEncode escapedInUserinfo s
    | some (user, password) => percentEncode escapedInUserinfo user ++ readPassword password)

/-- Cut at the first colon outside of brackets, which stays with the second part. -/
def splitPort (inBrackets : Bool) : List Char → List Char × List Char
  | [] => ([], [])
  | c :: rest =>
    if c = ':' ∧ !inBrackets then ([], c :: rest)
    else
      let (host, port) := splitPort (c = '[' || (inBrackets && c ≠ ']')) rest
      (c :: host, port)

def readPort (scheme : String) (s : List Char) :
    Except UrlError (Option UInt16 × List Char) :=
  let digits := s.takeWhile Char.isDigit
  let rest := s.dropWhile Char.isDigit
  let port := Text.digitsValue digits
  if 65535 < port then .error .invalidPort
  else if rest.isEmpty || rest.head? = some '\\' then
    let named := if digits.isEmpty then none else some (UInt16.ofNat port)
    .ok (if named = (impliedPort? scheme).join then none else named, rest)
  else .error .invalidPort

def readHostPort (scheme userinfo : String) (s : List Char) :
    Except UrlError (Authority × List Char) := do
  let special := isSpecialScheme scheme
  let (hostPart, portPart) := splitPort false s
  if hostPart.isEmpty && (special || !portPart.isEmpty || userinfo ≠ "") then .error .emptyHost
  let host ← if special then readHost hostPart else readOpaqueHost hostPart
  match portPart with
  | [] => pure (⟨userinfo, host, none⟩, [])
  | _ :: digits =>
    let (port, rest) ← readPort scheme digits
    pure (⟨userinfo, host, port⟩, rest)

def readAuthority (scheme : String) (more : Bool) (s : List Char) :
    Except UrlError (Authority × List Char) :=
  match Text.splitLast? (· = '@') s with
  | none => readHostPort scheme "" s
  | some (userinfo, rest) =>
    if userinfo.isEmpty && rest.isEmpty && more then .error .emptyHost
    else readHostPort scheme (encodeUserinfo userinfo) rest

def encodePathSegment (s : List Char) : String := .ofList (percentEncode escapedInPath s)

def readSegments (special ofFile : Bool) (s : List Char) : List String :=
  let behind :=
    match s with
    | [] => []
    | c :: rest => if isSlash special c then rest else c :: rest
  followAll ofFile [] ((Text.splitOn (isSlash special) behind).map encodePathSegment)

/-- The path behind an authority; only a special scheme makes an empty one a slash. -/
def readPath (special : Bool) (s : List Char) : UrlPath :=
  .segments (if s.isEmpty && !special then [] else readSegments special false s)

def Body.toUrl (b : Body) (scheme : String) (authority : Option Authority) (path : UrlPath) :
    Url where
  scheme := scheme
  authority := authority
  path := path
  query := b.query.map fun q =>
    .ofList (percentEncode (escapedInQuery (isSpecialScheme scheme)) q)
  fragment := b.fragment.map fun f => .ofList (percentEncode escapedInFragment f)

def Body.hasTail (b : Body) : Bool := b.query.isSome || b.fragment.isSome

def Body.withAuthority (b : Body) (scheme : String) (front : List Char) :
    Except UrlError Url := do
  let special := isSpecialScheme scheme
  let authorityPart := front.takeWhile fun c => !isSlash special c
  let pathPart := front.dropWhile fun c => !isSlash special c
  let (authority, rest) ←
    readAuthority scheme (!pathPart.isEmpty || b.hasTail) authorityPart
  pure (b.toUrl scheme (some authority) (readPath special (rest ++ pathPart)))

/-- A drive at the start of a file path may be written with a bar. -/
def mendDrive (segments : List String) : List String :=
  match segments with
  | [] => []
  | s :: rest =>
    match s.toList with
    | [c, '|'] => if c.isAlpha then .ofList [c, ':'] :: rest else s :: rest
    | _ => s :: rest

def readFileSegments (s : List Char) : List String :=
  let segments := readSegments true true s
  match mendDrive (segments.dropWhile (· = "")) with
  | [] => [""]
  | s :: rest => s :: rest

def isDriveLike (s : List Char) : Bool :=
  match s with
  | [c, d] => c.isAlpha && (d = ':' || d = '|')
  | _ => false

def readFileHost (s : List Char) : Except UrlError Host :=
  if s.isEmpty then .ok Host.none
  else (readHost s).map fun host => if host = .name "localhost" then Host.none else host

def Body.ofFile (b : Body) : Except UrlError Url := do
  match b.front with
  | c :: d :: rest =>
    if isSlash true c && isSlash true d then
      let hostPart := rest.takeWhile fun c => !isSlash true c
      if isDriveLike hostPart then
        return b.toUrl "file" (some ⟨"", Host.none, none⟩) (.segments (readFileSegments rest))
      let host ← readFileHost hostPart
      let segments := readFileSegments (rest.dropWhile fun c => !isSlash true c)
      let host := if (segments.head?.map isDrive).getD false then Host.none else host
      return b.toUrl "file" (some ⟨"", host, none⟩) (.segments segments)
  | _ => pure ()
  pure (b.toUrl "file" (some ⟨"", Host.none, none⟩) (.segments (readFileSegments b.front)))

def read (text : String) : Except UrlError Url :=
  match readScheme (significant text.toList) with
  | none => .error .relative
  | some (scheme, rest) =>
    let b := Body.ofChars rest
    if scheme = "file" then b.ofFile
    else if isSpecialScheme scheme then
      b.withAuthority scheme (b.front.dropWhile (isSlash true))
    else
      match b.front with
      | '/' :: '/' :: front => b.withAuthority scheme front
      | '/' :: _ => .ok (b.toUrl scheme none (readPath false b.front))
      | front => .ok (b.toUrl scheme none (.undivided (.ofList (percentEncode isControl front))))

end SiteCache.Url
