import SiteCache.Json.Node
import SiteCache.Text.Utf8

/-!
JSON as octets. Octets that are no text in UTF-8 can stand between the quotes of a literal only, and
there they are met when the text of the literal is wanted: a literal that is passed over is scanned
for its end and not read.
-/

set_option autoImplicit false

namespace SiteCache.Json

def octetChar (b : UInt8) : Char := Char.ofNat b.toNat

/-- The pieces of a literal whose characters stand for octets, if these are a text. `run` holds the
octets since the last escape by number, the last one first. -/
def spelledPieces? (run : List UInt8) : List Piece → Option (List Piece)
  | [] => do
    let text ← Text.ofOctets? run.reverse
    pure (text.toList.map .char)
  | .char c :: rest => spelledPieces? (c.toUInt8 :: run) rest
  | .unit u :: rest => do
    let text ← Text.ofOctets? run.reverse
    let later ← spelledPieces? [] rest
    pure (text.toList.map .char ++ .unit u :: later)

def LiteralEnd.spelled : LiteralEnd → LiteralEnd
  | .fewDigits _ => .cut
  | ending => ending

def Literal.spelled (l : Literal) : Literal :=
  match spelledPieces? [] l.pieces with
  | some pieces => ⟨pieces, l.ending.spelled⟩
  | none => ⟨l.pieces, if l.ending = .closed then .foreign else l.ending.spelled⟩

mutual

def Node.spelled : Node → Node
  | .string l => .string l.spelled
  | .array items ending => .array (spelledItems items) ending
  | .object members ending => .object (spelledMembers members) ending
  | node => node

def spelledItems : List Node → List Node
  | [] => []
  | item :: rest => item.spelled :: spelledItems rest

def spelledMembers : List (Node × Node) → List (Node × Node)
  | [] => []
  | (key, value) :: rest => (key.spelled, value.spelled) :: spelledMembers rest

end

/-- Octets that are a text in UTF-8 are read as that text, and all others one by one. -/
def Document.ofOctets (octets : List UInt8) : Document :=
  match Text.ofOctets? octets with
  | some text => .ofText text
  | none =>
    let document := Document.ofText (.ofList (octets.map octetChar))
    ⟨document.root.spelled, document.trailing⟩

end SiteCache.Json
