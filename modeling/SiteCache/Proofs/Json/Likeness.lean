import SiteCache.Proofs.Json.Members

set_option autoImplicit false

namespace SiteCache.Json

/-- What two trees, or their absence, have in common where they stand for the field of a name. -/
abbrev Likeness := String → Option Node → Option Node → Prop

inductive SlotsAlike (like : Likeness) :
    List Field → List (Option Node) → List (Option Node) → Prop
  | nil : SlotsAlike like [] [] []
  | cons {field : Field} {fields : List Field} {slot slot' : Option Node}
      {slots slots' : List (Option Node)} (first : like field.name slot slot')
      (rest : SlotsAlike like fields slots slots') :
      SlotsAlike like (field :: fields) (slot :: slots) (slot' :: slots')

theorem SlotsAlike.split {like : Likeness} {fields others : List Field}
    {slots slots' : List (Option Node)} (alike : SlotsAlike like (fields ++ others) slots slots') :
    SlotsAlike like fields (slots.take fields.length) (slots'.take fields.length) ∧
      SlotsAlike like others (slots.drop fields.length) (slots'.drop fields.length) := by
  induction fields generalizing slots slots' with
  | nil => exact ⟨.nil, alike⟩
  | cons field fields ih =>
    cases alike with
    | cons first rest =>
      obtain ⟨before, after⟩ := ih rest
      exact ⟨.cons first before, after⟩

theorem slotsAlike_none {like : Likeness} {fields : List Field}
    (absent : ∀ field ∈ fields, like field.name none none) :
    SlotsAlike like fields (.replicate fields.length none) (.replicate fields.length none) := by
  induction fields with
  | nil => exact .nil
  | cons field fields ih =>
    obtain ⟨first, rest⟩ := List.forall_mem_cons.mp absent
    exact .cons first (ih rest)

theorem slotsAlike_map {like : Likeness} {fields : List Field} (look look' : Field → Option Node)
    (alike : ∀ field ∈ fields, like field.name (look field) (look' field)) :
    SlotsAlike like fields (fields.map look) (fields.map look') := by
  induction fields with
  | nil => exact .nil
  | cons field fields ih =>
    obtain ⟨first, rest⟩ := List.forall_mem_cons.mp alike
    exact .cons first (ih rest)

namespace Shape

structure Keeps {α : Type} (shape : Shape α) (like : Likeness) (Q : α → α → Prop) : Prop where
  checks : ∀ field ∈ shape.fields, ∀ v v', like field.name (some v) (some v') →
    (field.check v = .ok () ↔ field.check v' = .ok ())
  builds : ∀ slots slots', SlotsAlike like shape.fields slots slots' →
    Agree Q (shape.build slots) (shape.build slots')

section

variable {α β : Type} {like : Likeness}

theorem Keeps.constant {Q : α → α → Prop} {a : α} (related : Q a a) :
    (Shape.constant a).Keeps like Q where
  checks := nofun
  builds := fun _ _ _ => .done related

theorem Keeps.also {f : Shape (α → β)} {x : Shape α} {Q : β → β → Prop} {R : α → α → Prop}
    (first : f.Keeps like fun g g' => ∀ a a', R a a' → Q (g a) (g' a')) (second : x.Keeps like R) :
    (f.also x).Keeps like Q where
  checks := by
    intro field among
    rcases List.mem_append.mp among with among | among
    · exact first.checks field among
    · exact second.checks field among
  builds := by
    intro slots slots' alike
    obtain ⟨before, after⟩ := alike.split
    exact (first.builds _ _ before).bind fun g g' related =>
      (second.builds _ _ after).bind fun a a' same => .done (related a a' same)

theorem Keeps.field {name : String} {presence : Presence} {decoder : Decoder α}
    {absent : Except DecodeError α} {R : α → α → Prop}
    (reads : ∀ slot slot', like name slot slot' →
      Agree R (slot.elim absent decoder) (slot'.elim absent decoder)) :
    (Shape.field name presence decoder absent).Keeps like R where
  checks := by
    intro field among v v' alike
    obtain rfl := List.mem_singleton.mp among
    exact (reads _ _ alike).succeeds_iff
  builds := by
    rintro _ _ (_ | ⟨first, ⟨⟩⟩)
    rename_i slot slot'
    have agree := reads slot slot' first
    cases slot <;> cases slot' <;> exact agree

end

end Shape

section

variable {like : Likeness}

def MemberAlike (like : Likeness) (m m' : Node × Node) : Prop :=
  m'.1 = m.1 ∧ ∀ name, Denotes name m.1 → like name (some m.2) (some m'.2)

def SlotAlike (like : Likeness) (slot slot' : String × Node) : Prop :=
  slot'.1 = slot.1 ∧ like slot.1 (some slot.2) (some slot'.2)

theorem MemberAlike.slot? {m m' : Node × Node} (alike : MemberAlike like m m') :
    (Json.slot? m = none ∧ Json.slot? m' = none) ∨
      ∃ slot slot', Json.slot? m = some slot ∧ Json.slot? m' = some slot' ∧
        SlotAlike like slot slot' := by
  obtain ⟨key, value⟩ := m
  obtain ⟨key', value'⟩ := m'
  obtain ⟨same, alike⟩ := alike
  obtain rfl : key = key' := same.symm
  cases named : Json.slot? (key, value) with
  | some slot =>
    obtain ⟨name, _⟩ := slot
    obtain ⟨denoted, rfl⟩ := slot?_eq_some.mp named
    exact .inr ⟨_, (name, value'), rfl, slot?_eq_some.mpr ⟨denoted, rfl⟩, rfl, alike name denoted⟩
  | none =>
    refine .inl ⟨rfl, ?_⟩
    cases named' : Json.slot? (key, value') with
    | none => rfl
    | some slot =>
      obtain ⟨denoted, -⟩ := slot?_eq_some.mp named'
      cases named.symm.trans (slot?_eq_some.mpr ⟨denoted, rfl⟩)

variable {fields : List Field} {members members' : List (Node × Node)}

theorem fieldSlots_alike (fields : List Field)
    (alike : List.Forall₂ (MemberAlike like) members members') :
    List.Forall₂ (SlotAlike like) (fieldSlots fields members) (fieldSlots fields members') := by
  induction alike with
  | nil => exact .nil
  | @cons m m' _ _ first _ ih =>
    obtain ⟨unnamed, unnamed'⟩ | ⟨slot, slot', named, named', same, value⟩ := first.slot?
    · rwa [fieldSlots, fieldSlots, List.filterMap_cons_none unnamed,
        List.filterMap_cons_none unnamed']
    · cases known : fieldOf? fields slot.1 with
      | some field =>
        rw [fieldSlots_cons_field named known, fieldSlots_cons_field named' (same ▸ known)]
        exact .cons ⟨same, value⟩ ih
      | none => rwa [fieldSlots_cons_other named known, fieldSlots_cons_other named' (same ▸ known)]

theorem names_of_alike {slots slots' : Slots} (alike : List.Forall₂ (SlotAlike like) slots slots') :
    slots'.map Prod.fst = slots.map Prod.fst := by
  induction alike with
  | nil => rfl
  | cons first _ ih => rw [List.map_cons, List.map_cons, first.1, ih]

theorem get?_alike {slots slots' : Slots} (alike : List.Forall₂ (SlotAlike like) slots slots')
    (name : String) : (slots.get? name = none ∧ slots'.get? name = none) ∨
      ∃ v v', slots.get? name = some v ∧ slots'.get? name = some v' ∧
        like name (some v) (some v') := by
  induction alike with
  | nil => exact .inl ⟨rfl, rfl⟩
  | @cons slot slot' slots slots' first _ ih =>
    obtain ⟨same, value⟩ := first
    by_cases here : slot.1 = name
    · refine .inr ⟨slot.2, slot'.2, ?_, ?_, here ▸ value⟩
      · simp [Slots.get?, here]
      · simp [Slots.get?, same.trans here]
    · have there : Slots.get? (slot :: slots) name = Slots.get? slots name := by
        simp [Slots.get?, here]
      have there' : Slots.get? (slot' :: slots') name = Slots.get? slots' name := by
        simp [Slots.get?, same ▸ here]
      rwa [there, there']

/-- What a likeness has to leave as it is for the members of a structure. -/
structure Likeness.Sound (like : Likeness) (fields : List Field) : Prop where
  checks : ∀ field ∈ fields, ∀ v v', like field.name (some v) (some v') →
    (field.check v = .ok () ↔ field.check v' = .ok ())
  others : ∀ name, fieldOf? fields name = none → ∀ v v', like name (some v) (some v') →
    (v.skipFault? = none ↔ v'.skipFault? = none)

theorem admits_alike (sound : like.Sound fields) {slot slot' : String × Node}
    (alike : SlotAlike like slot slot') : Admits fields slot ↔ Admits fields slot' := by
  obtain ⟨same, value⟩ := alike
  unfold Admits
  rw [same]
  cases known : fieldOf? fields slot.1 with
  | some field =>
    have named : field.name = slot.1 := by simpa using List.find?_some known
    exact sound.checks field (List.mem_of_find?_eq_some known) _ _ (named ▸ value)
  | none => exact sound.others slot.1 known _ _ value

theorem collects_alike (sound : like.Sound fields)
    (alike : List.Forall₂ (MemberAlike like) members members') :
    Collects fields members ↔ Collects fields members' := by
  have names := names_of_alike (fieldSlots_alike fields alike)
  have admitted : (∀ m ∈ members, ∃ slot, slot? m = some slot ∧ Admits fields slot) ↔
      ∀ m ∈ members', ∃ slot, slot? m = some slot ∧ Admits fields slot := by
    clear names
    induction alike with
    | nil => exact Iff.rfl
    | cons first _ ih =>
      rw [List.forall_mem_cons, List.forall_mem_cons, ih]
      refine and_congr_left' ?_
      obtain ⟨unnamed, unnamed'⟩ | ⟨slot, slot', named, named', like⟩ := first.slot?
      · simp [unnamed, unnamed']
      · simp [named, named', admits_alike sound like]
  exact ⟨fun ⟨each, once⟩ => ⟨admitted.mp each, names.symm ▸ once⟩,
    fun ⟨each, once⟩ => ⟨admitted.mpr each, names ▸ once⟩⟩

variable {α : Type} {shape : Shape α} {Q : α → α → Prop}

theorem ofMembers_alike (keeps : shape.Keeps like Q) (sound : like.Sound shape.fields)
    (alike : List.Forall₂ (MemberAlike like) members members')
    (absent : ∀ field ∈ shape.fields,
      (fieldSlots shape.fields members).get? field.name = none → like field.name none none) :
    Agree Q (ofMembers shape members none) (ofMembers shape members' none) := by
  have looked (name : String) := get?_alike (fieldSlots_alike shape.fields alike) name
  have collects := collects_alike sound alike
  have lacking : Field.absentIn (fieldSlots shape.fields members') =
      Field.absentIn (fieldSlots shape.fields members) := by
    funext field
    unfold Field.absentIn
    obtain ⟨unset, unset'⟩ | ⟨v, v', set, set', -⟩ := looked field.name
    · rw [unset, unset']
    · rw [set, set']
      rfl
  have slots : SlotsAlike like shape.fields _ _ := slotsAlike_map
    (fun field => (fieldSlots shape.fields members).get? field.name)
    (fun field => (fieldSlots shape.fields members').get? field.name) fun field among => by
      obtain ⟨unset, unset'⟩ | ⟨v, v', set, set', value⟩ := looked field.name
      · rw [unset, unset']
        exact absent field among unset
      · rwa [set, set']
  by_cases able : Collects shape.fields members ∧
      shape.fields.find? (·.absentIn (fieldSlots shape.fields members)) = none
  · refine .congr (fun a => ?_) (fun a => ?_) (keeps.builds _ _ slots)
    · rw [ofMembers_eq_ok, and_iff_right rfl, ← and_assoc, and_iff_right able]
    · rw [ofMembers_eq_ok, and_iff_right rfl, ← and_assoc, ← collects]
      simp only [lacking]
      rw [and_iff_right able]
  · refine .of_failing (fun a made => able ?_) (fun a made => able ?_)
    · obtain ⟨-, collects, present, -⟩ := ofMembers_eq_ok.mp made
      exact ⟨collects, present⟩
    · obtain ⟨-, collects', present, -⟩ := ofMembers_eq_ok.mp made
      simp only [lacking] at present
      exact ⟨collects.mpr collects', present⟩

end

inductive ItemsAlike (like : Likeness) : List Field → List Node → List Node → Prop
  | short (fields : List Field) : ItemsAlike like fields [] []
  | beyond (items : List Node) : ItemsAlike like [] items items
  | cons {field : Field} {fields : List Field} {v v' : Node} {items items' : List Node}
      (first : like field.name (some v) (some v')) (rest : ItemsAlike like fields items items') :
      ItemsAlike like (field :: fields) (v :: items) (v' :: items')

namespace ItemsAlike

variable {like : Likeness} {fields : List Field} {items items' : List Node}

theorem length_eq (alike : ItemsAlike like fields items items') : items.length = items'.length := by
  induction alike with
  | short | beyond => rfl
  | cons _ _ ih => rw [List.length_cons, List.length_cons, ih]

theorem drop_eq (alike : ItemsAlike like fields items items') :
    items.drop fields.length = items'.drop fields.length := by
  induction alike with
  | short | beyond => rfl
  | cons _ _ ih => exact ih

theorem checks_iff (sound : like.Sound fields) (alike : ItemsAlike like fields items items') :
    checkItems fields items = .ok () ↔ checkItems fields items' = .ok () := by
  have checks := sound.checks
  clear sound
  induction alike with
  | short | beyond => rfl
  | cons first _ ih =>
    obtain ⟨here, later⟩ := List.forall_mem_cons.mp checks
    rw [checkItems, checkItems, check_bind_eq_ok, check_bind_eq_ok]
    exact and_congr (here _ _ first) (ih later)

theorem slots (alike : ItemsAlike like fields items items')
    (absent : ∀ field ∈ fields.drop items.length, like field.name none none) :
    SlotsAlike like fields
      ((items.map some ++ List.replicate (fields.length - items.length) none).take fields.length)
      ((items'.map some ++ List.replicate (fields.length - items'.length) none).take
        fields.length) := by
  induction alike with
  | beyond items => exact .nil
  | short fields => simpa using slotsAlike_none absent
  | cons first _ ih =>
    simp only [List.map_cons, List.length_cons, Nat.add_sub_add_right, List.cons_append,
      List.take_succ_cons]
    exact .cons first (ih absent)

end ItemsAlike

section

variable {like : Likeness} {α : Type} {shape : Shape α} {Q : α → α → Prop}

theorem ofItems_alike (keeps : shape.Keeps like Q) (sound : like.Sound shape.fields)
    (name : String) {items items' : List Node} (alike : ItemsAlike like shape.fields items items')
    (absent : ∀ field ∈ shape.fields.drop items.length, like field.name none none) :
    Agree Q (ofItems name shape items none) (ofItems name shape items' none) := by
  have slots := alike.slots absent
  refine Agree.bind (.of_succeeds_iff (alike.checks_iff sound)) fun _ _ _ => ?_
  dsimp only
  rw [← alike.drop_eq, ← alike.length_eq] at *
  generalize List.drop shape.fields.length items = rest
  match rest with
  | [] =>
    dsimp only
    split
    · exact .failed _ _
    · exact keeps.builds _ _ slots
  | node :: rest =>
    split
    · exact .failed _ _
    · exact .failed _ _
    · contradiction
    · contradiction

end

end SiteCache.Json
