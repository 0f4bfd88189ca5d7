import SiteCache.Proofs.Json.Members
import SiteCache.Proofs.Json.Written

set_option autoImplicit false

namespace SiteCache.Json

def Reads {α : Type} (decoder : Decoder α) (write : α → Value) : Prop :=
  ∀ a, decoder (write a).node = .ok a

section

variable {α β : Type} {decoder : Decoder α} {write : α → Value}

theorem decodeText_render (decoder : Decoder α) (v : Value) :
    decodeText decoder v.render = decoder v.node := by
  rw [decodeText, ofText_render, Document.decode]
  cases decoder v.node <;> rfl

theorem textOf_writtenLiteral (s : String) : textOf (writtenLiteral s) = .ok s := by
  rw [textOf, text_writtenLiteral]

theorem text_reads : Reads Decode.text .string := textOf_writtenLiteral

theorem boolean_reads : Reads Decode.boolean .bool := fun _ => rfl

theorem int64_reads : Reads Decode.int64 fun n => .int n.toInt := by
  intro n
  have low := n.le_toInt
  have high := n.toInt_lt
  have number : numberOf (writtenNumeral n.toInt) = .ok (.integer n.toInt) := by
    rw [numberOf, number?_writtenNumeral]
    · simp only [Text.maxInt64]
      omega
    · simp only [maxSignificand, UInt64.size]
      omega
  have fits : n.toInt ≤ Text.maxInt64 := by
    simp only [Text.maxInt64]
    omega
  simp only [Decode.int64, Value.node, number, bind, Except.bind, if_pos fits, pure, Except.pure,
    Int64.ofInt_toInt]

theorem nullable_reads (reads : Reads decoder write) (present : ∀ a, (write a).node ≠ .null) :
    Reads (Decode.nullable decoder) (.ofOption write) := by
  rintro (_ | a)
  · rfl
  · rw [Value.ofOption, Decode.nullable]
    · rw [reads a]
      rfl
    · exact present a

theorem items_reads (reads : Reads decoder write) (as : List α) :
    Decode.items decoder (itemNodes (as.map write)) none = .ok as := by
  induction as with
  | nil => rfl
  | cons a rest ih =>
    rw [List.map_cons, itemNodes, Decode.items, reads a, ih]
    rfl

theorem list_reads (reads : Reads decoder write) :
    Reads (Decode.list decoder) fun as => .array (as.map write) :=
  fun as => items_reads reads as

theorem map_reads {f : α → β} {g : β → α} (inverse : ∀ b, f (g b) = b)
    (reads : Reads decoder write) :
    Reads (fun node => (decoder node).map f) (write ∘ g) := by
  intro b
  dsimp only [Function.comp_apply]
  rw [reads (g b), Except.map, inverse]

theorem parsed_decodes (expected : String) {parse : String → Except String α} {s : String} {a : α}
    (parsed : parse s = .ok a) :
    Decode.parsed expected parse (Value.string s).node = .ok a := by
  simp only [Decode.parsed, Value.node, textOf_writtenLiteral, bind, Except.bind, parsed]
  rfl

theorem choice_reads {ofName : String → Except DecodeError α} {name : α → String}
    (inverse : ∀ a, ofName (name a) = .ok a) :
    Reads (Decode.choice ofName) fun a => .string (name a) := by
  intro a
  simp only [Decode.choice, Value.node, textOf_writtenLiteral, bind, Except.bind, inverse]

end

/-- Members for the fields of a shape, in their order, from which it makes a value. -/
structure Shape.Takes {α : Type} (shape : Shape α) (members : List (String × Value)) (a : α) :
    Prop where
  fields : List.Forall₂ (fun (field : Field) member =>
    field.name = member.1 ∧ field.check member.2.node = .ok ()) shape.fields members
  build : shape.build (members.map fun member => some member.2.node) = .ok a

namespace Shape

variable {α β : Type}

theorem constant_takes (a : α) : (constant a).Takes [] a := ⟨.nil, rfl⟩

theorem field_takes (name : String) (presence : Presence) {decoder : Decoder α}
    (absent : Except DecodeError α) {v : Value} {a : α} (decoded : decoder v.node = .ok a) :
    (field name presence decoder absent).Takes [(name, v)] a where
  fields := by
    refine .cons ⟨rfl, ?_⟩ .nil
    dsimp only
    rw [decoded]
    rfl
  build := decoded

theorem required_takes {decoder : Decoder α} {v : Value} {a : α}
    (decoded : decoder v.node = .ok a) (name : String) :
    (required name decoder).Takes [(name, v)] a :=
  field_takes name .required _ decoded

theorem nullable_takes {decoder : Decoder α} {v : Value} {a : Option α}
    (decoded : Decode.nullable decoder v.node = .ok a) (name : String) :
    (nullable name decoder).Takes [(name, v)] a :=
  field_takes name .nullable _ decoded

theorem Takes.also {f : Shape (α → β)} {x : Shape α} {members others : List (String × Value)}
    {g : α → β} {a : α} (first : f.Takes members g) (second : x.Takes others a) :
    (f.also x).Takes (members ++ others) (g a) where
  fields := List.rel_append first.fields second.fields
  build := by
    have length : f.fields.length = (members.map fun member => some member.2.node).length := by
      rw [List.length_map, first.fields.length_eq]
    rw [Shape.also]
    simp only [List.map_append]
    rw [length, List.take_left, List.drop_left, first.build, second.build]
    rfl

end Shape

theorem memberNodes_eq_map (members : List (String × Value)) : memberNodes members =
    members.map fun member => (.string (writtenLiteral member.1), member.2.node) := by
  induction members with
  | nil => rfl
  | cons member rest ih => rw [memberNodes, ih, List.map_cons]

theorem slot?_written (member : String × Value) :
    slot? (.string (writtenLiteral member.1), member.2.node) = some (member.1, member.2.node) :=
  slot?_eq_some.mpr ⟨⟨_, rfl, text_writtenLiteral member.1⟩, rfl⟩

namespace Shape.Takes

variable {α : Type} {shape : Shape α} {members : List (String × Value)} {a : α}

theorem names (takes : shape.Takes members a) :
    shape.fields.map Field.name = members.map Prod.fst := by
  obtain ⟨fields, -⟩ := takes
  generalize shape.fields = known at fields ⊢
  induction fields with
  | nil => rfl
  | cons first _ ih => rw [List.map_cons, List.map_cons, first.1, ih]

theorem checked (takes : shape.Takes members a)
    (unambiguous : (shape.fields.map Field.name).Nodup) :
    ∀ member ∈ members, ∃ field, fieldOf? shape.fields member.1 = some field ∧
      field.check member.2.node = .ok () := by
  have checks : ∀ member ∈ members, ∃ field ∈ shape.fields,
      field.name = member.1 ∧ field.check member.2.node = .ok () := by
    obtain ⟨fields, -⟩ := takes
    clear unambiguous
    generalize shape.fields = known at fields ⊢
    induction fields with
    | nil => exact nofun
    | cons first _ ih =>
      refine List.forall_mem_cons.mpr ⟨⟨_, List.mem_cons_self, first⟩, ?_⟩
      intro member inside
      obtain ⟨field, among, rest⟩ := ih member inside
      exact ⟨field, List.mem_cons_of_mem _ among, rest⟩
  intro member inside
  obtain ⟨field, known, named, ok⟩ := checks member inside
  exact ⟨field, named ▸ find?_of_mem unambiguous known, ok⟩

theorem fieldSlots_memberNodes (takes : shape.Takes members a)
    (unambiguous : (shape.fields.map Field.name).Nodup) :
    fieldSlots shape.fields (memberNodes members) =
      members.map fun member => (member.1, member.2.node) := by
  have named : slot? ∘ (fun member : String × Value =>
      (.string (writtenLiteral member.1), member.2.node)) =
        some ∘ fun member => (member.1, member.2.node) := funext slot?_written
  rw [fieldSlots, memberNodes_eq_map, List.filterMap_map, named, List.filterMap_eq_map,
    List.filter_eq_self]
  intro slot among
  obtain ⟨member, inside, rfl⟩ := List.mem_map.mp among
  obtain ⟨field, known, -⟩ := takes.checked unambiguous member inside
  exact known ▸ rfl

theorem collects (takes : shape.Takes members a)
    (unambiguous : (shape.fields.map Field.name).Nodup) :
    Collects shape.fields (memberNodes members) where
  admitted := by
    rw [memberNodes_eq_map]
    intro m among
    obtain ⟨member, inside, rfl⟩ := List.mem_map.mp among
    obtain ⟨field, known, ok⟩ := takes.checked unambiguous member inside
    exact ⟨_, slot?_written member, by rwa [Admits, known]⟩
  once := by
    rw [takes.fieldSlots_memberNodes unambiguous, List.map_map]
    exact takes.names ▸ unambiguous

theorem decodes (takes : shape.Takes members a) (unambiguous : (shape.fields.map Field.name).Nodup)
    (name : String) : shape.decoder name (Value.object members).node = .ok a := by
  have collects := takes.collects unambiguous
  have read : ∀ member ∈ members, Slots.get? (fieldSlots shape.fields (memberNodes members))
      member.1 = some member.2.node := by
    intro member inside
    rw [get?_eq_some collects.once, takes.fieldSlots_memberNodes unambiguous]
    exact List.mem_map.mpr ⟨member, inside, rfl⟩
  change ofMembers shape (memberNodes members) none = .ok a
  refine ofMembers_eq_ok.mpr ⟨rfl, collects, ?present, ?build⟩
  case present =>
    apply List.find?_eq_none.mpr
    intro field known
    have named : field.name ∈ members.map Prod.fst := takes.names ▸ List.mem_map_of_mem known
    obtain ⟨member, inside, same⟩ := List.mem_map.mp named
    simp [Field.absentIn, ← same, read member inside]
  case build =>
    have through : (fun field : Field =>
        Slots.get? (fieldSlots shape.fields (memberNodes members)) field.name) =
        Slots.get? (fieldSlots shape.fields (memberNodes members)) ∘ Field.name := rfl
    rw [through, ← List.map_map, takes.names, List.map_map, ← takes.build]
    congr 1
    exact List.map_congr_left read

end Shape.Takes

end SiteCache.Json
