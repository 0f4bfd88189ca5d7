import SiteCache.Json.Literal
import SiteCache.Json.Numeral

/-!
JSON texts as trees. A text that is no JSON still has a tree: the part before the first fault, with
the fault standing where the text goes wrong. A decoder that walks a tree in text order meets its
own objections and the faults of the text in the order in which they stand.
-/

set_option autoImplicit false

namespace SiteCache.Json

inductive Node where
  | null
  | bool (b : Bool)
  | number (n : Numeral)
  | string (l : Literal)
  /-- `ending` is the fault after the last item, if the list is not closed there. -/
  | array (items : List Node) (ending : Option Fault)
  | object (members : List (Node × Node)) (ending : Option Fault)
  | fault (f : Fault)

mutual

def Node.skipFault? : Node → Option Fault
  | .null | .bool _ | .number _ => none
  | .string l => l.ending.skipFault?
  | .array items ending => skipItems? items <|> ending
  | .object members ending => skipMembers? members <|> ending
  | .fault f => some f

def skipItems? : List Node → Option Fault
  | [] => none
  | item :: rest => item.skipFault? <|> skipItems? rest

def skipMembers? : List (Node × Node) → Option Fault
  | [] => none
  | (.string l, value) :: rest => l.ending.skipFault? <|> value.skipFault? <|> skipMembers? rest
  | (_, _) :: _ => some .keyNotString

end

def isSpace (c : Char) : Bool := c = ' ' || c = '\t' || c = '\n' || c = '\r'

def skipSpace (s : List Char) : List Char := s.dropWhile isSpace

/-- A tree and the text behind it, or a tree that ends in a fault. -/
structure Reading where
  node : Node
  rest : Option (List Char)

def Reading.broken (f : Fault) : Reading := ⟨.fault f, none⟩

def readWord (node : Node) : List Char → List Char → Reading
  | [], s => ⟨node, some s⟩
  | _ :: _, [] => .broken .cutWord
  | w :: word, c :: s => if c = w then readWord node word s else .broken .badWord

def readDigits (s : List Char) : Except Fault (List Char × List Char) :=
  match s.takeWhile Char.isDigit with
  | [] => .error (if s.isEmpty then .cutNumber else .badNumber)
  | digits => .ok (digits, s.dropWhile Char.isDigit)

def readWhole (s : List Char) : Except Fault (List Char × List Char) :=
  match s with
  | '0' :: c :: rest => if c.isDigit then .error .badNumber else .ok (['0'], c :: rest)
  | _ => readDigits s

def readFraction (s : List Char) : Except Fault (Option (List Char) × List Char) :=
  match s with
  | '.' :: rest => (readDigits rest).map fun (digits, rest) => (some digits, rest)
  | _ => .ok (none, s)

def readExponent (s : List Char) : Except Fault (Option (Bool × List Char) × List Char) :=
  let signed : List Char → Except Fault (Option (Bool × List Char) × List Char)
    | '-' :: rest => (readDigits rest).map fun (digits, rest) => (some (true, digits), rest)
    | '+' :: rest => (readDigits rest).map fun (digits, rest) => (some (false, digits), rest)
    | rest => (readDigits rest).map fun (digits, rest) => (some (false, digits), rest)
  match s with
  | 'e' :: rest => signed rest
  | 'E' :: rest => signed rest
  | _ => .ok (none, s)

def readNumeral (negative : Bool) (s : List Char) : Reading :=
  let numeral : Except Fault (Numeral × List Char) := do
    let (whole, s) ← readWhole s
    let (fraction, s) ← readFraction s
    let (exponent, s) ← readExponent s
    pure (⟨negative, whole, fraction, exponent⟩, s)
  match numeral with
  | .ok (n, rest) => ⟨.number n, some rest⟩
  | .error fault => .broken fault

def readString (s : List Char) : Reading :=
  let (l, rest) := readLiteral s
  ⟨.string l, if l.ending = .closed then some rest else none⟩

mutual

/-- Every call reads a character, so the length of the text is fuel enough. -/
def readValue (fuel : Nat) (s : List Char) : Reading :=
  match fuel with
  | 0 => .broken .valueMissing
  | fuel + 1 =>
    match skipSpace s with
    | [] => .broken .valueMissing
    | '"' :: rest => readString rest
    | '[' :: rest =>
      match skipSpace rest with
      | ']' :: rest => ⟨.array [] none, some rest⟩
      | [] => ⟨.array [] (some .openList), none⟩
      | rest =>
        let (items, ending, rest) := readItems fuel rest
        ⟨.array items ending, rest⟩
    | '\x7b' :: rest =>
      match skipSpace rest with
      | '\x7d' :: rest => ⟨.object [] none, some rest⟩
      | [] => ⟨.object [] (some .openObject), none⟩
      | rest =>
        let (members, ending, rest) := readMembers fuel rest
        ⟨.object members ending, rest⟩
    | 'n' :: rest => readWord .null ['u', 'l', 'l'] rest
    | 't' :: rest => readWord (.bool true) ['r', 'u', 'e'] rest
    | 'f' :: rest => readWord (.bool false) ['a', 'l', 's', 'e'] rest
    | '-' :: rest => readNumeral true rest
    | c :: rest => if c.isDigit then readNumeral false (c :: rest) else .broken .notValue

def readItems (fuel : Nat) (s : List Char) : List Node × Option Fault × Option (List Char) :=
  match fuel with
  | 0 => ([], some .openList, none)
  | fuel + 1 =>
    let first := readValue fuel s
    match first.rest with
    | none => ([first.node], none, none)
    | some rest =>
      match skipSpace rest with
      | ']' :: rest => ([first.node], none, some rest)
      | [] => ([first.node], some .openList, none)
      | ',' :: rest =>
        match skipSpace rest with
        -- The fault stands as an item, since it is a decoder of items that meets it.
        | ']' :: _ => ([first.node, .fault .listComma], none, none)
        | rest =>
          let (items, ending, rest) := readItems fuel rest
          (first.node :: items, ending, rest)
      | _ => ([first.node], some .listSeparator, none)

def readMembers (fuel : Nat) (s : List Char) :
    List (Node × Node) × Option Fault × Option (List Char) :=
  match fuel with
  | 0 => ([], some .openObject, none)
  | fuel + 1 =>
    let key := readValue fuel s
    match key.node, key.rest with
    | .string _, some rest =>
      match skipSpace rest with
      | ':' :: rest =>
        let value := readValue fuel rest
        match value.rest with
        | none => ([(key.node, value.node)], none, none)
        | some rest =>
          match skipSpace rest with
          | '\x7d' :: rest => ([(key.node, value.node)], none, some rest)
          | [] => ([(key.node, value.node)], some .openObject, none)
          | ',' :: rest =>
            match skipSpace rest with
            | '\x7d' :: _ => ([(key.node, value.node)], some .objectComma, none)
            | [] => ([(key.node, value.node)], some .objectCut, none)
            | rest =>
              let (members, ending, rest) := readMembers fuel rest
              ((key.node, value.node) :: members, ending, rest)
          | _ => ([(key.node, value.node)], some .objectSeparator, none)
      | [] => ([(key.node, .fault .openObject)], none, none)
      | _ => ([(key.node, .fault .colonMissing)], none, none)
    | _, _ => ([(key.node, .fault .keyNotString)], none, none)

end

structure Document where
  root : Node
  trailing : Bool

def Document.ofText (s : String) : Document :=
  let chars := s.toList
  let reading := readValue (2 * chars.length + 2) chars
  ⟨reading.node,
    match reading.rest with
    | none => false
    | some rest => !(skipSpace rest).isEmpty⟩

end SiteCache.Json
