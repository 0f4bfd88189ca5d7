import SiteCache.Toml.Quoted

set_option autoImplicit false

namespace SiteCache.Toml

inductive Style where
  | escaped (extent : Extent)
  | verbatim (extent : Extent)
  deriving DecidableEq, Repr

def hasTriple (mark : Char) : List Char → Bool
  | a :: b :: c :: rest =>
    (a == mark && b == mark && c == mark) || hasTriple mark (b :: c :: rest)
  | _ => false

def styleOf (s : List Char) : Style :=
  let isShown (c : Char) : Bool := isPlain c || c = '\n'
  let fits (extent : Extent) (mark : Char) : Bool :=
    match extent with
    | .line => !s.contains mark && !s.contains '\n'
    | .lines => !hasTriple mark s
  if s.all isShown && !s.contains '\\' && fits .line '"' then .escaped .line
  else if s.all isShown && fits .line '\'' then .verbatim .line
  else if s.all isShown && !s.contains '\\' && fits .lines '"' then .escaped .lines
  else if s.all isShown && fits .lines '\'' then .verbatim .lines
  else .escaped (if s.contains '\n' then .lines else .line)

def escapeChar (c : Char) : List Char :=
  if c = '"' ∨ c = '\\' then ['\\', c]
  else if c = Char.ofNat 8 then ['\\', 'b']
  else if c = '\t' then ['\\', 't']
  else if c = '\n' then ['\\', 'n']
  else if c = Char.ofNat 12 then ['\\', 'f']
  else if c = '\r' then ['\\', 'r']
  else ['\\', 'u', '0', '0', Text.hexDigit (c.toNat / 16), Text.hexDigit (c.toNat % 16)]

def allowedRun : Extent → Nat
  | .line => 0
  | .lines => 2

/-- `run` quotes stand in front of the text. -/
def escapeFrom (extent : Extent) (run : Nat) : List Char → List Char
  | [] => []
  | c :: rest =>
    if c = '"' then
      if run < allowedRun extent then c :: escapeFrom extent (run + 1) rest
      else escapeChar c ++ escapeFrom extent 0 rest
    else if c = '\n' ∧ extent = .lines then c :: escapeFrom extent 0 rest
    else if isControl c ∨ c = '\t' ∨ c = '\\' then escapeChar c ++ escapeFrom extent 0 rest
    else c :: escapeFrom extent 0 rest

def enclose (mark : Char) (extent : Extent) (newline : Bool) (body : List Char) : List Char :=
  match extent with
  | .line => mark :: body ++ [mark]
  | .lines =>
    [mark, mark, mark] ++ (if newline then ['\n'] else []) ++ body ++ [mark, mark, mark]

def writeString (s : List Char) : List Char :=
  match styleOf s with
  | .escaped extent => enclose '"' extent (s.contains '\n') (escapeFrom extent 0 s)
  | .verbatim extent => enclose '\'' extent (s.contains '\n') s

end SiteCache.Toml
