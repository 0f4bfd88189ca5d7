set_option autoImplicit false

namespace SiteCache.Toml

/-- How a table came to be: between braces, by a header of its own, on the way to the table of
another header, or on the way to the last part of a dotted key. It decides what may be added. -/
inductive Origin where
  | inline
  | defined
  | implied
  | dotted
  deriving DecidableEq, Repr

/-- Floats and points in time are kept as they are written. -/
inductive Value where
  | string (text : String)
  | integer (n : Int64)
  | float (literal : String)
  | boolean (b : Bool)
  | moment (literal : String)
  | array (items : List Value)
  | table (origin : Origin) (entries : List (String × Value))
  | tables (items : List (List (String × Value)))

abbrev Entries := List (String × Value)

namespace Entries

def get? : Entries → String → Option Value
  | [], _ => none
  | (k, value) :: rest, key => if k = key then some value else get? rest key

def alter (entries : Entries) (key : String) (change : Option Value → Option Value) :
    Option Entries :=
  match entries with
  | [] => (change none).map fun value => [(key, value)]
  | (k, value) :: rest =>
    if k = key then (change (some value)).map fun value => (k, value) :: rest
    else (alter rest key change).map fun rest => (k, value) :: rest

end Entries

end SiteCache.Toml
