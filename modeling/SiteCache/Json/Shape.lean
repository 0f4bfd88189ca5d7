import SiteCache.Json.Decode

set_option autoImplicit false

namespace SiteCache.Json

inductive Presence where
  | required
  | nullable
  | defaulted
  deriving DecidableEq, Repr

structure Field where
  name : String
  presence : Presence
  check : Node → Except DecodeError Unit

/-- The fields of a structure, and its value from the trees that stand for them, in that order. -/
structure Shape (α : Type) where
  fields : List Field
  build : List (Option Node) → Except DecodeError α

namespace Shape

def constant {α : Type} (a : α) : Shape α := ⟨[], fun _ => .ok a⟩

def field {α : Type} (name : String) (presence : Presence) (decoder : Decoder α)
    (absent : Except DecodeError α) : Shape α where
  fields := [⟨name, presence, fun node => (decoder node).map fun _ => ()⟩]
  build
    | [some node] => decoder node
    | _ => absent

def required {α : Type} (name : String) (decoder : Decoder α) : Shape α :=
  field name .required decoder (.error (.missingField name))

def nullable {α : Type} (name : String) (decoder : Decoder α) : Shape (Option α) :=
  field name .nullable (Decode.nullable decoder) (.ok none)

def defaulted {α : Type} (name : String) (decoder : Decoder α) (default : α) : Shape α :=
  field name .defaulted decoder (.ok default)

def also {α β : Type} (f : Shape (α → β)) (x : Shape α) : Shape β where
  fields := f.fields ++ x.fields
  build slots := do
    let g ← f.build (slots.take f.fields.length)
    let a ← x.build (slots.drop f.fields.length)
    pure (g a)

end Shape

abbrev Slots := List (String × Node)

def Slots.get? (slots : Slots) (name : String) : Option Node :=
  (slots.find? (·.1 == name)).map (·.2)

/-- Walks the members of an object in text order and keeps those that are fields. A field that comes
twice is refused at its second key. -/
def collect (fields : List Field) : Slots → List (Node × Node) → Except DecodeError Slots
  | slots, [] => .ok slots
  | slots, (.string l, value) :: rest => do
    let name ← textOf l
    match fields.find? (·.name == name) with
    | none =>
      let _ ← skip value
      collect fields slots rest
    | some field =>
      if (slots.get? name).isSome then .error (.duplicateField name)
      else
        let _ ← field.check value
        collect fields ((name, value) :: slots) rest
  | _, (_, _) :: _ => readFault .keyNotString

def Field.absentIn (slots : Slots) (field : Field) : Bool :=
  field.presence = .required && (slots.get? field.name).isNone

def ofMembers {α : Type} (shape : Shape α) (members : List (Node × Node))
    (ending : Option Fault) : Except DecodeError α := do
  let slots ← collect shape.fields [] members
  match ending with
  | some fault => readFault fault
  | none =>
    match shape.fields.find? (·.absentIn slots) with
    | some field => .error (.missingField field.name)
    | none => shape.build (shape.fields.map fun field => slots.get? field.name)

def checkItems : List Field → List Node → Except DecodeError Unit
  | field :: fields, node :: nodes => do
    let _ ← field.check node
    checkItems fields nodes
  | _, _ => .ok ()

def lengthExpected (name : String) (count : Nat) : String :=
  "struct " ++ name ++ " with " ++ Text.natText count ++
    (if count = 1 then " element" else " elements")

def ofItems {α : Type} (name : String) (shape : Shape α) (items : List Node)
    (ending : Option Fault) : Except DecodeError α := do
  let _ ← checkItems shape.fields items
  let count := shape.fields.length
  match items.drop count, ending with
  -- The list is longer than the fields are many: only the comma after the last one is looked at.
  | .fault .listComma :: _, _ => readFault .listComma
  | _ :: _, _ => readFault .trailingText
  | [], some fault =>
    if items.length < count ∨ fault = .openList then readFault fault else readFault .trailingText
  | [], none =>
    match (shape.fields.drop items.length).findIdx? (·.presence ≠ .defaulted) with
    | some i => .error (.invalidLength (items.length + i) (lengthExpected name count))
    | none =>
      let absent := List.replicate (count - items.length) none
      shape.build ((items.map some ++ absent).take count)

def Shape.decoder {α : Type} (name : String) (shape : Shape α) : Decoder α
  | .object members ending => ofMembers shape members ending
  | .array items ending => ofItems name shape items ending
  | node => mismatch ("struct " ++ name) node

end SiteCache.Json
