import SiteCache.Program.Usage
import SiteCache.Text.Split

set_option autoImplicit false

namespace SiteCache.Program

structure Ending where
  status : Nat
  output : List String
  errors : List String
  deriving DecidableEq, Repr

structure Complaint where
  message : String
  cause : Option String := none
  deriving DecidableEq, Repr

def isLineFeed (c : Char) : Bool := c = '\n'

def textLines (s : String) : List String := (Text.splitOn isLineFeed s.toList).map String.ofList

def Complaint.lines (c : Complaint) : List String :=
  textLines ("Error: " ++ c.message) ++
    match c.cause with
    | none => []
    | some cause => ["", "Caused by:"] ++ (textLines cause).map ("    " ++ ·)

def Ending.ofStop : Stop → Ending
  | .usage e => ⟨2, [], [e.message]⟩
  | .version => ⟨0, ["shopsync 0.1.0"], []⟩
  | .help => ⟨0, [], []⟩

def Ending.of (output : List String) : Except Complaint Unit → Ending
  | .ok () => ⟨0, output, []⟩
  | .error c => ⟨1, output, c.lines⟩

end SiteCache.Program
