import SiteCache.Text.Hexadecimal

set_option autoImplicit false

namespace SiteCache.Toml

def isControl (c : Char) : Bool := (c.toNat < 0x20 && c != '\t') || c.toNat == 0x7F

def isPlain (c : Char) : Bool := !isControl c

def isSpace (c : Char) : Bool := c = ' ' || c = '\t'

def shortEscape? (c : Char) : Option Char :=
  if c = '"' ∨ c = '\\' then some c
  else if c = 'b' then some (Char.ofNat 8)
  else if c = 't' then some '\t'
  else if c = 'n' then some '\n'
  else if c = 'f' then some (Char.ofNat 12)
  else if c = 'r' then some '\r'
  else none

def charOfCode? (code : Nat) : Option Char :=
  if code.isValidChar then some (Char.ofNat code) else none

inductive Extent where
  | line
  | lines
  deriving DecidableEq, Repr

inductive Scan where
  | text
  | escape
  | digits (left value : Nat)
  | lineEnd
  | gap
  deriving DecidableEq, Repr

/-- A string of several lines ends at the third mark in a row; up to two further marks belong to the
string. Returns those and the rest of the text. -/
def closing? (mark : Char) : Extent → List Char → Option (List Char × List Char)
  | .line, s => if s.head? = some mark then some ([], s.drop 1) else none
  | .lines, s =>
    let run := (s.takeWhile (· = mark)).length
    if 3 ≤ run then
      let inner := min (run - 3) 2
      some (List.replicate inner mark, s.drop (3 + inner))
    else none

def addChar (c : Char) (r : Option (List Char × List Char)) : Option (List Char × List Char) :=
  r.map fun (text, rest) => (c :: text, rest)

def readEscaped (extent : Extent) : Scan → List Char → Option (List Char × List Char)
  | _, [] => none
  | .escape, c :: rest =>
    if c = 'u' then readEscaped extent (.digits 4 0) rest
    else if c = 'U' then readEscaped extent (.digits 8 0) rest
    else if extent = .lines ∧ c = '\n' then readEscaped extent .gap rest
    else if extent = .lines ∧ isSpace c then readEscaped extent .lineEnd rest
    else
      match shortEscape? c with
      | some e => addChar e (readEscaped extent .text rest)
      | none => none
  | .digits left value, c :: rest =>
    match Text.hexValue? c with
    | none => none
    | some d =>
      let value := 16 * value + d
      if left ≤ 1 then
        match charOfCode? value with
        | some e => addChar e (readEscaped extent .text rest)
        | none => none
      else readEscaped extent (.digits (left - 1) value) rest
  | .lineEnd, c :: rest =>
    if c = '\n' then readEscaped extent .gap rest
    else if isSpace c then readEscaped extent .lineEnd rest
    else none
  | scan, c :: rest =>
    if scan = .gap ∧ (isSpace c ∨ c = '\n') then readEscaped extent .gap rest
    else
      match closing? '"' extent (c :: rest) with
      | some result => some result
      | none =>
        if c = '\\' then readEscaped extent .escape rest
        else if isPlain c ∨ (extent = .lines ∧ c = '\n') then
          addChar c (readEscaped extent .text rest)
        else none

def readVerbatim (extent : Extent) : List Char → Option (List Char × List Char)
  | [] => none
  | c :: rest =>
    match closing? '\'' extent (c :: rest) with
    | some result => some result
    | none =>
      if isPlain c ∨ (extent = .lines ∧ c = '\n') then addChar c (readVerbatim extent rest)
      else none

def dropNewline : List Char → List Char
  | '\n' :: rest => rest
  | s => s

def textOf (r : Option (List Char × List Char)) : Option (String × List Char) :=
  r.map fun (text, rest) => (String.ofList text, rest)

def readLineString : List Char → Option (String × List Char)
  | '"' :: rest => textOf (readEscaped .line .text rest)
  | '\'' :: rest => textOf (readVerbatim .line rest)
  | _ => none

def readString : List Char → Option (String × List Char)
  | '"' :: '"' :: '"' :: rest => textOf (readEscaped .lines .text (dropNewline rest))
  | '\'' :: '\'' :: '\'' :: rest => textOf (readVerbatim .lines (dropNewline rest))
  | s => readLineString s

end SiteCache.Toml
