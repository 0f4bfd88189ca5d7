import SiteCache.Json.Fault
import SiteCache.Text.Hexadecimal

set_option autoImplicit false

namespace SiteCache.Json

inductive Piece where
  | char (c : Char)
  | unit (value : Nat)
  deriving DecidableEq, Repr

inductive LiteralEnd where
  | closed
  | cut
  | control
  | badEscape
  | badDigits
  | fewDigits (left : List Char)
  | foreign
  deriving DecidableEq, Repr

structure Literal where
  pieces : List Piece
  ending : LiteralEnd
  deriving DecidableEq, Repr

def holdsFourOctets (s : List Char) : Bool :=
  4 ≤ (String.ofList (s.take 4)).utf8ByteSize

def fewDigitsFault (left : List Char) : Fault :=
  if holdsFourOctets left then .badEscape else .openString

def LiteralEnd.fault? : LiteralEnd → Option Fault
  | .closed => none
  | .cut => some .openString
  | .control => some .controlCharacter
  | .badEscape => some .badEscape
  | .badDigits => some .badEscape
  | .fewDigits left => some (fewDigitsFault left)
  | .foreign => some .notText

def LiteralEnd.skipFault? : LiteralEnd → Option Fault
  | .foreign => none
  | ending => ending.fault?

def isLeading (unit : Nat) : Bool := 0xD800 ≤ unit && unit ≤ 0xDBFF

def isTrailing (unit : Nat) : Bool := 0xDC00 ≤ unit && unit ≤ 0xDFFF

def pairValue (leading trailing : Nat) : Nat :=
  0x10000 + (leading - 0xD800) * 0x400 + (trailing - 0xDC00)

def LiteralEnd.faultAfterLeading : LiteralEnd → Fault
  | .cut => .openString
  | .badDigits => .badEscape
  | .fewDigits left => fewDigitsFault left
  | .closed | .control | .badEscape | .foreign => .unpairedSurrogate

def charsOf (ending : LiteralEnd) : List Piece → Except Fault (List Char)
  | [] =>
    match ending.fault? with
    | none => .ok []
    | some fault => .error fault
  | .char c :: rest => (charsOf ending rest).map (c :: ·)
  | [.unit u] =>
    if isTrailing u then .error .loneSurrogate
    else if isLeading u then .error ending.faultAfterLeading
    else (charsOf ending []).map (Char.ofNat u :: ·)
  | .unit u :: .char c :: rest =>
    if isTrailing u then .error .loneSurrogate
    else if isLeading u then .error .unpairedSurrogate
    else (charsOf ending (.char c :: rest)).map (Char.ofNat u :: ·)
  | .unit u :: .unit v :: rest =>
    if isTrailing u then .error .loneSurrogate
    else if isLeading u then
      if isTrailing v then (charsOf ending rest).map (Char.ofNat (pairValue u v) :: ·)
      else .error .loneSurrogate
    else (charsOf ending (.unit v :: rest)).map (Char.ofNat u :: ·)

def Literal.text (l : Literal) : Except Fault String :=
  (charsOf l.ending l.pieces).map String.ofList

def Literal.ofString (s : String) : Literal := ⟨s.toList.map .char, .closed⟩

def fourHex? (a b c d : Char) : Option Nat := do
  pure ((((← Text.hexValue? a) * 16 + (← Text.hexValue? b)) * 16 + (← Text.hexValue? c)) * 16 +
    (← Text.hexValue? d))

def shortEscape? (c : Char) : Option Char :=
  if c = '"' ∨ c = '\\' ∨ c = '/' then some c
  else if c = 'b' then some (Char.ofNat 8)
  else if c = 'f' then some (Char.ofNat 12)
  else if c = 'n' then some '\n'
  else if c = 'r' then some '\r'
  else if c = 't' then some '\t'
  else none

def Literal.cons (p : Piece) (r : Literal × List Char) : Literal × List Char :=
  (⟨p :: r.1.pieces, r.1.ending⟩, r.2)

def readLiteral : List Char → Literal × List Char
  | [] => (⟨[], .cut⟩, [])
  | '"' :: rest => (⟨[], .closed⟩, rest)
  | '\\' :: 'u' :: a :: b :: c :: d :: rest =>
    match fourHex? a b c d with
    | some value => Literal.cons (.unit value) (readLiteral rest)
    | none => (⟨[], .badDigits⟩, [])
  | '\\' :: 'u' :: rest => (⟨[], .fewDigits rest⟩, [])
  | ['\\'] => (⟨[], .cut⟩, [])
  | '\\' :: c :: rest =>
    match shortEscape? c with
    | some e => Literal.cons (.char e) (readLiteral rest)
    | none => (⟨[], .badEscape⟩, [])
  | c :: rest =>
    if c.toNat < 0x20 then (⟨[], .control⟩, [])
    else Literal.cons (.char c) (readLiteral rest)

end SiteCache.Json
