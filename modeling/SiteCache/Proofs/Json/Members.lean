import Mathlib.Data.List.Forall2
import Mathlib.Data.List.Nodup
import SiteCache.Json.Shape
import SiteCache.Proofs.Fallible

set_option autoImplicit false

namespace SiteCache.Json

def Denotes (s : String) (node : Node) : Prop := ∃ l, node = .string l ∧ l.text = .ok s

theorem Denotes.unique {s s' : String} {node : Node} (denotes : Denotes s node)
    (denotes' : Denotes s' node) : s = s' := by
  obtain ⟨l, rfl, text⟩ := denotes
  obtain ⟨_, ⟨⟩, text'⟩ := denotes'
  exact Except.ok.inj (text.symm.trans text')

theorem textOf_eq_ok {l : Literal} {s : String} : textOf l = .ok s ↔ l.text = .ok s := by
  unfold textOf
  cases l.text <;> simp [readFault]

-- A member whose key denotes a text, with that text.
def slot? : Node × Node → Option (String × Node)
  | (.string l, value) => (textOf l).toOption.map (·, value)
  | _ => none

theorem slot?_eq_some {m : Node × Node} {name : String} {value : Node} :
    slot? m = some (name, value) ↔ Denotes name m.1 ∧ m.2 = value := by
  obtain ⟨key, value'⟩ := m
  cases key with
  | string l =>
    cases text : textOf l with
    | ok s =>
      have denoted := textOf_eq_ok.mp text
      simp [slot?, text, Denotes, denoted, Except.toOption]
    | error e =>
      have none (s : String) : l.text ≠ .ok s := by
        intro denoted
        rw [textOf_eq_ok.mpr denoted] at text
        cases text
      simp [slot?, text, Denotes, none, Except.toOption]
  | _ => simp [slot?, Denotes]

section

variable (fields : List Field)

def fieldOf? (name : String) : Option Field := fields.find? (·.name == name)

theorem fieldOf?_isSome {name : String} :
    (fieldOf? fields name).isSome ↔ name ∈ fields.map Field.name := by
  simp [fieldOf?, List.find?_isSome]

-- What is asked of a member: of a field its check, and of any other that it can be passed over.
def Admits (slot : String × Node) : Prop :=
  match fieldOf? fields slot.1 with
  | some field => field.check slot.2 = .ok ()
  | none => slot.2.skipFault? = none

def fieldSlots (members : List (Node × Node)) : Slots :=
  (members.filterMap slot?).filter fun slot => (fieldOf? fields slot.1).isSome

structure Collects (members : List (Node × Node)) : Prop where
  admitted : ∀ m ∈ members, ∃ slot, slot? m = some slot ∧ Admits fields slot
  once : ((fieldSlots fields members).map Prod.fst).Nodup

end

section

variable {fields : List Field} {members : List (Node × Node)}

theorem skip_eq_ok {node : Node} : skip node = .ok () ↔ node.skipFault? = none := by
  unfold skip
  cases node.skipFault? <;> simp

theorem fieldSlots_cons_field {m : Node × Node} {slot : String × Node} (named : slot? m = some slot)
    {field : Field} (known : fieldOf? fields slot.1 = some field) :
    fieldSlots fields (m :: members) = slot :: fieldSlots fields members := by
  rw [fieldSlots, List.filterMap_cons_some named, List.filter_cons_of_pos (by simp [known])]
  rfl

theorem fieldSlots_cons_other {m : Node × Node} {slot : String × Node} (named : slot? m = some slot)
    (other : fieldOf? fields slot.1 = none) :
    fieldSlots fields (m :: members) = fieldSlots fields members := by
  rw [fieldSlots, List.filterMap_cons_some named, List.filter_cons_of_neg (by simp [other])]
  rfl

theorem get?_eq_none {slots : Slots} {name : String} :
    slots.get? name = none ↔ name ∉ slots.map Prod.fst := by
  simp only [Slots.get?, Option.map_eq_none_iff, List.find?_eq_none, List.mem_map, beq_iff_eq,
    not_exists, not_and]

theorem collect_unnamed {m : Node × Node} (unnamed : slot? m = none) (slots slots' : Slots) :
    collect fields slots (m :: members) ≠ .ok slots' := by
  obtain ⟨key, value⟩ := m
  cases key with
  | string l =>
    rw [collect]
    cases text : textOf l with
    | ok s => simp [slot?, text, Except.toOption] at unnamed
    | error e => exact nofun
  | _ => exact nofun

theorem collect_field {m : Node × Node} {slot : String × Node} (named : slot? m = some slot)
    {field : Field} (known : fieldOf? fields slot.1 = some field) {slots slots' : Slots} :
    collect fields slots (m :: members) = .ok slots' ↔ slot.1 ∉ slots.map Prod.fst ∧
      field.check slot.2 = .ok () ∧ collect fields (slot :: slots) members = .ok slots' := by
  obtain ⟨name, value⟩ := slot
  obtain ⟨⟨l, key, text⟩, content⟩ := slot?_eq_some.mp named
  obtain ⟨_, _⟩ := m
  subst key content
  have found : fields.find? (·.name == name) = some field := known
  rw [collect, textOf_eq_ok.mpr text, ← get?_eq_none]
  simp only [bind, Except.bind, found]
  cases slots.get? name with
  | some value => simp
  | none =>
    rw [and_iff_right rfl]
    exact check_bind_eq_ok

theorem collect_other {m : Node × Node} {slot : String × Node} (named : slot? m = some slot)
    (other : fieldOf? fields slot.1 = none) {slots slots' : Slots} :
    collect fields slots (m :: members) = .ok slots' ↔
      slot.2.skipFault? = none ∧ collect fields slots members = .ok slots' := by
  obtain ⟨name, value⟩ := slot
  obtain ⟨⟨l, key, text⟩, content⟩ := slot?_eq_some.mp named
  obtain ⟨_, _⟩ := m
  subst key content
  have absent : fields.find? (·.name == name) = none := other
  rw [collect, textOf_eq_ok.mpr text, ← skip_eq_ok]
  simp only [bind, Except.bind, absent]
  exact check_bind_eq_ok

theorem collects_cons {m : Node × Node} {slot : String × Node} (named : slot? m = some slot) :
    Collects fields (m :: members) ↔ Admits fields slot ∧
      ((fieldSlots fields (m :: members)).map Prod.fst).Nodup ∧
      ∀ m ∈ members, ∃ slot, slot? m = some slot ∧ Admits fields slot := by
  have first : (∃ slot', slot? m = some slot' ∧ Admits fields slot') ↔ Admits fields slot := by
    simp [named]
  rw [← first]
  constructor
  · rintro ⟨admitted, once⟩
    obtain ⟨here, later⟩ := List.forall_mem_cons.mp admitted
    exact ⟨here, once, later⟩
  · rintro ⟨here, once, later⟩
    exact ⟨List.forall_mem_cons.mpr ⟨here, later⟩, once⟩

theorem collects_field {m : Node × Node} {slot : String × Node} (named : slot? m = some slot)
    {field : Field} (known : fieldOf? fields slot.1 = some field) :
    Collects fields (m :: members) ↔ field.check slot.2 = .ok () ∧
      slot.1 ∉ (fieldSlots fields members).map Prod.fst ∧ Collects fields members := by
  have admits : Admits fields slot ↔ field.check slot.2 = .ok () := by rw [Admits, known]
  rw [collects_cons named, fieldSlots_cons_field named known, List.map_cons, List.nodup_cons,
    admits, and_assoc]
  exact and_congr_right' (and_congr_right'
    ⟨fun ⟨once, admitted⟩ => ⟨admitted, once⟩, fun ⟨admitted, once⟩ => ⟨once, admitted⟩⟩)

theorem collects_other {m : Node × Node} {slot : String × Node} (named : slot? m = some slot)
    (other : fieldOf? fields slot.1 = none) :
    Collects fields (m :: members) ↔ slot.2.skipFault? = none ∧ Collects fields members := by
  have admits : Admits fields slot ↔ slot.2.skipFault? = none := by rw [Admits, other]
  rw [collects_cons named, fieldSlots_cons_other named other, admits]
  exact and_congr_right'
    ⟨fun ⟨once, admitted⟩ => ⟨admitted, once⟩, fun ⟨admitted, once⟩ => ⟨once, admitted⟩⟩

theorem collect_eq_ok {slots slots' : Slots} : collect fields slots members = .ok slots' ↔
    Collects fields members ∧ (∀ slot ∈ fieldSlots fields members, slot.1 ∉ slots.map Prod.fst) ∧
      slots' = (fieldSlots fields members).reverse ++ slots := by
  induction members generalizing slots with
  | nil =>
    rw [collect, Except.ok.injEq, eq_comm]
    exact ⟨fun same => ⟨⟨nofun, List.nodup_nil⟩, nofun, same⟩, fun collected => collected.2.2⟩
  | cons m rest ih =>
    cases named : slot? m with
    | none =>
      refine iff_of_false (collect_unnamed named _ _) fun ⟨⟨admitted, _⟩, _⟩ => ?_
      obtain ⟨slot, named', -⟩ := admitted m List.mem_cons_self
      cases named.symm.trans named'
    | some slot =>
      cases known : fieldOf? fields slot.1 with
      | none =>
        rw [collect_other named known, ih, collects_other named known,
          fieldSlots_cons_other named known, and_assoc]
      | some field =>
        rw [collect_field named known, ih, collects_field named known,
          fieldSlots_cons_field named known, List.forall_mem_cons, List.reverse_cons,
          List.append_assoc]
        constructor
        · rintro ⟨new, checked, collects, later, same⟩
          refine ⟨⟨checked, ?_, collects⟩, ⟨new, fun s among => ?_⟩, same⟩
          · rintro again
            obtain ⟨s, among, twice⟩ := List.mem_map.mp again
            exact later s among (twice ▸ List.mem_cons_self)
          · exact fun before => later s among (List.mem_cons_of_mem _ before)
        · rintro ⟨⟨checked, once, collects⟩, ⟨new, later⟩, same⟩
          refine ⟨new, checked, collects, fun s among before => ?_, same⟩
          rcases List.mem_cons.mp before with twice | before
          · exact once (List.mem_map.mpr ⟨s, among, twice⟩)
          · exact later s among before

theorem find?_of_mem {α β : Type} [DecidableEq β] {f : α → β} {xs : List α}
    (distinct : (xs.map f).Nodup) {a : α} (member : a ∈ xs) :
    xs.find? (fun x => f x == f a) = some a := by
  cases found : xs.find? (fun x => f x == f a) with
  | none => exact absurd (List.find?_eq_none.mp found a member) (by simp)
  | some x =>
    have same : f x = f a := by simpa using List.find?_some found
    rw [List.inj_on_of_nodup_map distinct (List.mem_of_find?_eq_some found) member same]

theorem get?_eq_some {slots : Slots} (once : (slots.map Prod.fst).Nodup) {name : String}
    {value : Node} : slots.get? name = some value ↔ (name, value) ∈ slots := by
  constructor
  · intro found
    obtain ⟨⟨name', value'⟩, first, rfl⟩ := Option.map_eq_some_iff.mp found
    obtain rfl : name' = name := by simpa using List.find?_some first
    exact List.mem_of_find?_eq_some first
  · intro among
    have found := find?_of_mem once among
    rw [Slots.get?, found]
    rfl

theorem get?_perm {slots slots' : Slots} (perm : slots.Perm slots')
    (once : (slots.map Prod.fst).Nodup) : slots.get? = slots'.get? := by
  have once' : (slots'.map Prod.fst).Nodup := (perm.map _).nodup_iff.mp once
  funext name
  apply Option.ext
  intro value
  rw [get?_eq_some once, get?_eq_some once', perm.mem_iff]

variable {α : Type} {shape : Shape α}

theorem ofMembers_eq_ok {ending : Option Fault} {a : α} :
    ofMembers shape members ending = .ok a ↔ ending = none ∧ Collects shape.fields members ∧
      shape.fields.find? (·.absentIn (fieldSlots shape.fields members)) = none ∧
      shape.build (shape.fields.map fun field =>
        (fieldSlots shape.fields members).get? field.name) = .ok a := by
  rw [ofMembers, bind_eq_ok]
  -- What is collected comes in reverse, which no look-up can tell.
  have reversed (once : ((fieldSlots shape.fields members).map Prod.fst).Nodup) :
      Slots.get? ((fieldSlots shape.fields members).reverse ++ []) =
        (fieldSlots shape.fields members).get? := by
    rw [List.append_nil]
    refine get?_perm (List.reverse_perm _) ?_
    rwa [List.map_reverse, List.nodup_reverse]
  cases ending with
  | some fault =>
    exact iff_of_false (fun ⟨_, _, built⟩ => nomatch built) (fun ⟨ended, _⟩ => nomatch ended)
  | none =>
    rw [and_iff_right rfl]
    constructor
    · rintro ⟨slots, collected, built⟩
      obtain ⟨collects, -, rfl⟩ := collect_eq_ok.mp collected
      simp only [Field.absentIn, reversed collects.once] at built ⊢
      split at built <;> rename_i present
      · cases built
      · exact ⟨collects, present, built⟩
    · rintro ⟨collects, present, built⟩
      refine ⟨_, collect_eq_ok.mpr ⟨collects, by simp, rfl⟩, ?_⟩
      simp only [Field.absentIn, reversed collects.once] at present ⊢
      rw [present]
      exact built

def Foreign (fields : List Field) (m : Node × Node) : Prop :=
  ∃ slot, slot? m = some slot ∧ fieldOf? fields slot.1 = none ∧ slot.2.skipFault? = none

theorem fieldSlots_append (members others : List (Node × Node)) :
    fieldSlots fields (members ++ others) =
      fieldSlots fields members ++ fieldSlots fields others := by
  rw [fieldSlots, List.filterMap_append, List.filter_append]
  rfl

theorem fieldSlots_foreign (foreign : ∀ m ∈ members, Foreign fields m) :
    fieldSlots fields members = [] := by
  induction members with
  | nil => rfl
  | cons m rest ih =>
    obtain ⟨⟨slot, named, other, -⟩, later⟩ := List.forall_mem_cons.mp foreign
    rw [fieldSlots_cons_other named other, ih later]

theorem fieldSlots_perm (fields : List Field) {members' : List (Node × Node)}
    (perm : members.Perm members') :
    (fieldSlots fields members).Perm (fieldSlots fields members') := (perm.filterMap slot?).filter _

theorem Collects.perm {members' : List (Node × Node)} (perm : members.Perm members')
    (collects : Collects fields members) : Collects fields members' where
  admitted := fun m among => collects.admitted m (perm.mem_iff.mpr among)
  once := ((fieldSlots_perm fields perm).map _).nodup_iff.mp collects.once

theorem collects_append_foreign {extra : List (Node × Node)}
    (foreign : ∀ m ∈ extra, Foreign fields m) :
    Collects fields (members ++ extra) ↔ Collects fields members := by
  have slots : fieldSlots fields (members ++ extra) = fieldSlots fields members := by
    rw [fieldSlots_append, fieldSlots_foreign foreign, List.append_nil]
  constructor
  · rintro ⟨admitted, once⟩
    exact ⟨fun m among => admitted m (List.mem_append_left _ among), slots ▸ once⟩
  · rintro ⟨admitted, once⟩
    refine ⟨fun m among => ?_, slots.symm ▸ once⟩
    rcases List.mem_append.mp among with among | among
    · exact admitted m among
    · obtain ⟨slot, named, other, sound⟩ := foreign m among
      exact ⟨slot, named, by rw [Admits, other]; exact sound⟩

theorem ofMembers_rearranged {members' extra : List (Node × Node)}
    (perm : members'.Perm (members ++ extra)) (foreign : ∀ m ∈ extra, Foreign shape.fields m) :
    Agree Eq (ofMembers shape members none) (ofMembers shape members' none) := by
  have slots := fieldSlots_perm shape.fields perm
  rw [fieldSlots_append, fieldSlots_foreign foreign, List.append_nil] at slots
  have collects : Collects shape.fields members ↔ Collects shape.fields members' :=
    (collects_append_foreign foreign).symm.trans ⟨.perm perm.symm, .perm perm⟩
  refine agree_iff.mpr fun a => ?_
  rw [ofMembers_eq_ok, ofMembers_eq_ok, ← collects]
  refine and_congr_right' (and_congr_right fun collected => ?_)
  have same := get?_perm slots.symm collected.once
  simp only [Field.absentIn, same]

theorem not_collects_twice {m m' : Node × Node} {rest : List (Node × Node)} {name : String}
    (perm : members.Perm (m :: m' :: rest)) (first : Denotes name m.1) (second : Denotes name m'.1)
    (known : (fieldOf? fields name).isSome) : ¬ Collects fields members := by
  intro collects
  obtain ⟨field, known⟩ := Option.isSome_iff_exists.mp known
  have once := (collects.perm perm).once
  rw [fieldSlots_cons_field (slot?_eq_some.mpr ⟨first, rfl⟩) known,
    fieldSlots_cons_field (slot?_eq_some.mpr ⟨second, rfl⟩) known] at once
  exact (List.nodup_cons.mp once).1 List.mem_cons_self

end

end SiteCache.Json
