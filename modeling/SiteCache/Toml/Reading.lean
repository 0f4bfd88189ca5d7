import SiteCache.Toml.Quoted
import SiteCache.Toml.Scalar
import SiteCache.Toml.Table

set_option autoImplicit false

namespace SiteCache.Toml

/-- Containers inside each other, and parts of a key, stay below this number. -/
def depthLimit : Nat := 80

def skipSpace (s : List Char) : List Char := s.dropWhile isSpace

def isKeyChar (c : Char) : Bool := c.isAlphanum || c = '_' || c = '-'

def readKeyPart (s : List Char) : Option (String × List Char) :=
  match s.takeWhile isKeyChar with
  | [] => readLineString s
  | part => some (.ofList part, s.dropWhile isKeyChar)

/-- The parts of a key are joined by dots, with spaces around them. Every part reads a character, so
the length of the text is fuel enough. -/
def readKeyParts : Nat → List Char → Option (List String × List Char)
  | 0, _ => none
  | fuel + 1, s =>
    match readKeyPart (skipSpace s) with
    | none => none
    | some (part, rest) =>
      match skipSpace rest with
      | '.' :: rest => (readKeyParts fuel rest).map fun (parts, rest) => (part :: parts, rest)
      | rest => some ([part], rest)

def readKey (s : List Char) : Option (Key × List Char) :=
  match readKeyParts (s.length + 1) s with
  | some (parts, rest) =>
    if parts.length < depthLimit then
      parts.getLast?.map fun last => (⟨parts.dropLast, last⟩, rest)
    else none
  | none => none

def skipComment (s : List Char) : Option (List Char) :=
  match s with
  | '#' :: rest =>
    match rest.dropWhile isPlain with
    | [] => some []
    | c :: rest => if c = '\n' then some (c :: rest) else none
  | _ => some s

def skipLayout : Nat → List Char → Option (List Char)
  | 0, _ => none
  | fuel + 1, s =>
    match skipComment (skipSpace s) with
    | some ('\n' :: rest) => skipLayout fuel rest
    | result => result

def layout (s : List Char) : Option (List Char) := skipLayout (s.length + 1) s

abbrev Inner := List Char → Option (Value × List Char)

def readItems (inner : Inner) : Nat → List Char → Option (List Value × List Char)
  | 0, _ => none
  | fuel + 1, s => do
    match ← layout s with
    | ']' :: rest => pure ([], rest)
    | s =>
      let (item, rest) ← inner s
      match ← layout rest with
      | ']' :: rest => pure ([item], rest)
      | ',' :: rest =>
        let (items, rest) ← readItems inner fuel rest
        pure (item :: items, rest)
      | _ => none

def readPair (inner : Inner) (s : List Char) : Option ((Key × Value) × List Char) := do
  match ← readKey s with
  | (key, '=' :: rest) =>
    let (value, rest) ← inner (skipSpace rest)
    pure ((key, value), rest)
  | _ => none

def readPairs (inner : Inner) : Nat → List Char → Option (List (Key × Value) × List Char)
  | 0, _ => none
  | fuel + 1, s => do
    let (pair, rest) ← readPair inner s
    match skipSpace rest with
    | '\x7d' :: rest => pure ([pair], rest)
    | ',' :: rest =>
      let (pairs, rest) ← readPairs inner fuel rest
      pure (pair :: pairs, rest)
    | _ => none

def readInline (inner : Inner) (s : List Char) : Option (Value × List Char) := do
  let (pairs, rest) ← match skipSpace s with
    | '\x7d' :: rest => some ([], rest)
    | _ => readPairs inner (s.length + 1) s
  let entries ← pairs.foldlM (fun entries pair => addPair pair.1 pair.2 .inline entries) []
  pure (.table .inline entries, rest)

/-- `depth` more containers may stand inside each other. -/
def readValue (depth : Nat) (s : List Char) : Option (Value × List Char) :=
  match readString s with
  | some (text, rest) => some (.string text, rest)
  | none =>
    match depth, s with
    | depth + 1, '[' :: rest =>
      (readItems (readValue depth) (rest.length + 1) rest).map fun (items, rest) =>
        (.array items, rest)
    | depth + 1, '\x7b' :: rest => readInline (readValue depth) rest
    | _, s => readScalar s

def endLine (s : List Char) : Option (List Char) :=
  match skipComment (skipSpace s) with
  | some [] => some []
  | some ('\n' :: rest) => some rest
  | _ => none

def readHeader (s : List Char) : Option (Line × List Char) := do
  match s with
  | '[' :: rest =>
    match ← readKey rest with
    | (key, ']' :: ']' :: rest) => pure (.listHeader key, rest)
    | _ => none
  | _ =>
    match ← readKey s with
    | (key, ']' :: rest) => pure (.header key, rest)
    | _ => none

def readLine (s : List Char) : Option (Line × List Char) :=
  match s with
  | '[' :: rest => readHeader rest
  | _ => (readPair (readValue (depthLimit - 1)) s).map fun ((key, value), rest) =>
    (.pair key value, rest)

def readLines : Nat → List Char → Option (List Line)
  | 0, _ => none
  | fuel + 1, s => do
    match ← skipComment (skipSpace s) with
    | [] => pure []
    | '\n' :: rest => readLines fuel rest
    | s =>
      let (line, rest) ← readLine s
      let lines ← readLines fuel (← endLine rest)
      pure (line :: lines)

def unifyNewlines : List Char → List Char
  | [] => []
  | c :: rest =>
    if c = '\r' ∧ rest.head? = some '\n' then unifyNewlines rest else c :: unifyNewlines rest

def byteOrderMark : Char := Char.ofNat 0xFEFF

def dropMark : List Char → List Char
  | [] => []
  | c :: rest => if c = byteOrderMark then rest else c :: rest

def read (text : String) : Option Entries := do
  let s := unifyNewlines (dropMark text.toList)
  assemble (← readLines (s.length + 1) s)

end SiteCache.Toml
