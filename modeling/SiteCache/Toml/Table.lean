import SiteCache.Toml.Value

set_option autoImplicit false

namespace SiteCache.Toml

structure Key where
  path : List String
  last : String
  deriving DecidableEq, Repr

def Key.parts (key : Key) : List String := key.path ++ [key.last]

inductive Line where
  | pair (key : Key) (value : Value)
  | header (key : Key)
  | listHeader (key : Key)

/-- A change to a table. `none` refuses it. -/
abbrev Change := Origin → Entries → Option Entries

/-- Which tables a path may lead through. A missing table is made on the way. -/
inductive Way where
  | header
  | dotted
  deriving DecidableEq, Repr

def Way.origin : Way → Origin
  | .header => .implied
  | .dotted => .dotted

def Way.passes : Way → Origin → Bool
  | _, .inline => false
  | .dotted, .defined => false
  | _, _ => true

/-- Changes the table at the end of a path. A list of tables leads to its last one. -/
def changeAt (way : Way) : List String → Change → Change
  | [], change => change
  | key :: path, change => fun _ entries => entries.alter key fun
    | none => (changeAt way path change way.origin []).map (.table way.origin)
    | some (.table origin inner) =>
      if way.passes origin then (changeAt way path change origin inner).map (.table origin)
      else none
    | some (.tables items) =>
      match items.getLast? with
      | some last => (changeAt way path change .defined last).map fun last =>
        .tables (items.dropLast ++ [last])
      | none => none
    | some _ => none

/-- Adds a key that is not there yet. Only a key with a path adds to a table made by dotted keys. -/
def addPair (key : Key) (value : Value) : Change :=
  changeAt .dotted key.path fun origin entries =>
    if origin = .dotted ↔ key.path.isEmpty then none
    else entries.alter key.last fun
      | none => some value
      | some _ => none

def openTable (key : Key) : Change :=
  changeAt .header key.path fun _ entries => entries.alter key.last fun
    | none => some (.table .defined [])
    | some (.table .implied inner) => some (.table .defined inner)
    | some _ => none

def extendList (key : Key) : Change :=
  changeAt .header key.path fun _ entries => entries.alter key.last fun
    | none => some (.tables [[]])
    | some (.tables items) => some (.tables (items ++ [[]]))
    | some _ => none

/-- The tables made so far, and the path of the one that pairs are added to. -/
structure Assembly where
  entries : Entries
  current : List String

def Assembly.add (a : Assembly) : Line → Option Assembly
  | .pair key value =>
    (changeAt .header a.current (addPair key value) .defined a.entries).map (⟨·, a.current⟩)
  | .header key => (openTable key .defined a.entries).map (⟨·, key.parts⟩)
  | .listHeader key => (extendList key .defined a.entries).map (⟨·, key.parts⟩)

def assemble (lines : List Line) : Option Entries :=
  (lines.foldlM Assembly.add ⟨[], []⟩).map Assembly.entries

end SiteCache.Toml
