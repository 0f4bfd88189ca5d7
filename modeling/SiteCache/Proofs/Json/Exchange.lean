import SiteCache.Proofs.Json.Likeness

set_option autoImplicit false

namespace SiteCache.Json

def Exchanged (name : String) (R : Node → Node → Prop) : Likeness := fun other slot slot' =>
  if other = name then ∃ v v', slot = some v ∧ slot' = some v' ∧ R v v' else slot' = slot

section

variable {name other : String} {R : Node → Node → Prop}

theorem exchanged_here {slot slot' : Option Node} : Exchanged name R name slot slot' ↔
    ∃ v v', slot = some v ∧ slot' = some v' ∧ R v v' := by
  rw [Exchanged, if_pos rfl]

theorem exchanged_there (different : other ≠ name) {slot slot' : Option Node} :
    Exchanged name R other slot slot' ↔ slot' = slot := by
  rw [Exchanged, if_neg different]

end

namespace Shape.Keeps

variable {α : Type} {name : String} {R : Node → Node → Prop}

theorem here {presence : Presence} {decoder : Decoder α} {absent : Except DecodeError α}
    {Q : α → α → Prop} (reads : ∀ v v', R v v' → Agree Q (decoder v) (decoder v')) :
    (Shape.field name presence decoder absent).Keeps (Exchanged name R) Q := by
  refine .field fun slot slot' alike => ?_
  obtain ⟨v, v', rfl, rfl, related⟩ := exchanged_here.mp alike
  exact reads v v' related

theorem there {other : String} (different : other ≠ name) {presence : Presence}
    {decoder : Decoder α} {absent : Except DecodeError α} :
    (Shape.field other presence decoder absent).Keeps (Exchanged name R) Eq := by
  refine .field fun slot slot' alike => ?_
  rw [(exchanged_there different).mp alike]
  exact .refl (fun _ => rfl) _

end Shape.Keeps

section

variable {α : Type} {shape : Shape α} {Q : α → α → Prop} {name : String} {R : Node → Node → Prop}

theorem ne_of_unknown {fields : List Field} {other : String} (known : (fieldOf? fields name).isSome)
    (unknown : fieldOf? fields other = none) : other ≠ name := by
  rintro rfl
  rw [unknown] at known
  cases known

theorem sound_exchanged (keeps : shape.Keeps (Exchanged name R) Q)
    (known : (fieldOf? shape.fields name).isSome) : (Exchanged name R).Sound shape.fields where
  checks := keeps.checks
  others := by
    intro other unknown v v' alike
    cases (exchanged_there (ne_of_unknown known unknown)).mp alike
    rfl

theorem get?_of_named {fields : List Field} {members : List (Node × Node)} {m : Node × Node}
    (known : (fieldOf? fields name).isSome) (among : m ∈ members) (named : Denotes name m.1) :
    (fieldSlots fields members).get? name ≠ none := by
  rw [ne_eq, get?_eq_none, not_not]
  refine List.mem_map.mpr ⟨(name, m.2), List.mem_filter.mpr ⟨?_, known⟩, rfl⟩
  exact List.mem_filterMap.mpr ⟨m, among, slot?_eq_some.mpr ⟨named, rfl⟩⟩

theorem decoder_exchanged (keeps : shape.Keeps (Exchanged name R) Q)
    (known : (fieldOf? shape.fields name).isSome) (title : String)
    {members members' : List (Node × Node)}
    (alike : List.Forall₂ (MemberAlike (Exchanged name R)) members members')
    (present : ∃ m ∈ members, Denotes name m.1) :
    Agree Q (shape.decoder title (.object members none))
      (shape.decoder title (.object members' none)) := by
  refine ofMembers_alike keeps (sound_exchanged keeps known) alike fun field among unset => ?_
  obtain ⟨m, inside, named⟩ := present
  have different : field.name ≠ name := by
    rintro rfl
    exact get?_of_named known inside named unset
  exact (exchanged_there different).mpr rfl

theorem memberAlike_self {m : Node × Node} (other : ¬ Denotes name m.1) :
    MemberAlike (Exchanged name R) m m := by
  refine ⟨rfl, fun other' named => (exchanged_there ?_).mpr rfl⟩
  rintro rfl
  exact other named

theorem decoder_member (keeps : shape.Keeps (Exchanged name R) Q)
    (known : (fieldOf? shape.fields name).isSome) (title : String)
    {before after : List (Node × Node)} {key v v' : Node} (named : Denotes name key)
    (related : R v v') :
    Agree Q (shape.decoder title (.object (before ++ (key, v) :: after) none))
      (shape.decoder title (.object (before ++ (key, v') :: after) none)) := by
  by_cases once : ∀ m ∈ before ++ after, ¬ Denotes name m.1
  · have self (members : List (Node × Node)) (others : ∀ m ∈ members, ¬ Denotes name m.1) :
        List.Forall₂ (MemberAlike (Exchanged name R)) members members :=
      List.forall₂_same.mpr fun m among => memberAlike_self (others m among)
    obtain ⟨first, last⟩ := List.forall_mem_append.mp once
    have here : MemberAlike (Exchanged name R) (key, v) (key, v') := by
      refine ⟨rfl, fun other named' => ?_⟩
      obtain rfl := named.unique named'
      exact exchanged_here.mpr ⟨v, v', rfl, rfl, related⟩
    exact decoder_exchanged keeps known title
      (List.rel_append (self before first) (.cons here (self after last)))
      ⟨(key, v), by simp, named⟩
  · simp only [not_forall, not_not] at once
    obtain ⟨m, among, twice⟩ := once
    -- A field that comes twice is refused, whatever it holds.
    have refused (w : Node) (a : α) :
        shape.decoder title (.object (before ++ (key, w) :: after) none) ≠ .ok a := by
      intro made
      obtain ⟨first, last, split⟩ := List.append_of_mem among
      have perm : (before ++ (key, w) :: after).Perm ((key, w) :: m :: (first ++ last)) := by
        refine List.perm_middle.trans (.cons _ ?_)
        rw [split]
        exact List.perm_middle
      change ofMembers shape _ none = .ok a at made
      exact not_collects_twice perm named twice known (ofMembers_eq_ok.mp made).2.1
    exact .of_failing (refused v) (refused v')

theorem ItemsAlike.refl {like : Likeness} {fields : List Field}
    (same : ∀ field ∈ fields, ∀ v, like field.name (some v) (some v)) (items : List Node) :
    ItemsAlike like fields items items := by
  induction fields generalizing items with
  | nil => exact .beyond items
  | cons field fields ih =>
    cases items with
    | nil => exact .short _
    | cons item items =>
      obtain ⟨here, later⟩ := List.forall_mem_cons.mp same
      exact .cons (here item) (ih later items)

theorem ItemsAlike.append {like : Likeness} {fields others : List Field}
    (same : ∀ field ∈ fields, ∀ v, like field.name (some v) (some v))
    {before items items' : List Node} (length : before.length = fields.length)
    (alike : ItemsAlike like others items items') :
    ItemsAlike like (fields ++ others) (before ++ items) (before ++ items') := by
  induction fields generalizing before with
  | nil =>
    cases List.length_eq_zero_iff.mp length
    exact alike
  | cons field fields ih =>
    cases before with
    | nil => cases length
    | cons item before =>
      obtain ⟨here, later⟩ := List.forall_mem_cons.mp same
      exact .cons (here item) (ih later (Nat.succ.inj length))

theorem decoder_item (keeps : shape.Keeps (Exchanged name R) Q)
    (distinct : (shape.fields.map Field.name).Nodup) (title : String)
    {before after : List Node} {v v' : Node} {field : Field}
    (here : shape.fields[before.length]? = some field) (named : field.name = name)
    (related : R v v') :
    Agree Q (shape.decoder title (.array (before ++ v :: after) none))
      (shape.decoder title (.array (before ++ v' :: after) none)) := by
  obtain ⟨inside, found⟩ := List.getElem?_eq_some_iff.mp here
  have split : shape.fields = shape.fields.take before.length ++
      field :: shape.fields.drop (before.length + 1) := by
    rw [← found, ← List.drop_eq_getElem_cons inside, List.take_append_drop]
  have length : before.length = (shape.fields.take before.length).length := by
    rw [List.length_take, Nat.min_eq_left (Nat.le_of_lt inside)]
  generalize shape.fields.take before.length = earlier at split length
  generalize shape.fields.drop (before.length + 1) = later at split
  rw [split, List.map_append, List.map_cons, List.nodup_append, List.nodup_cons] at distinct
  obtain ⟨-, ⟨fresh, -⟩, apart⟩ := distinct
  have others : ∀ other ∈ earlier ++ later, other.name ≠ name := by
    rw [← named]
    intro other among same
    rcases List.mem_append.mp among with among | among
    · exact apart _ (List.mem_map_of_mem among) _ List.mem_cons_self same
    · exact fresh (same ▸ List.mem_map_of_mem among)
  have same : ∀ other ∈ earlier ++ later, ∀ slot, Exchanged name R other.name slot slot :=
    fun other among slot => (exchanged_there (others other among)).mpr rfl
  obtain ⟨sameEarlier, sameLater⟩ := List.forall_mem_append.mp same
  have alike : ItemsAlike (Exchanged name R) shape.fields (before ++ v :: after)
      (before ++ v' :: after) := by
    rw [split]
    refine .append (fun other among _ => sameEarlier other among _) length (.cons ?_ (.refl ?_ _))
    · rw [named]
      exact exchanged_here.mpr ⟨v, v', rfl, rfl, related⟩
    · exact fun other among _ => sameLater other among _
  refine ofItems_alike keeps (sound_exchanged keeps ?_) title alike fun other among => ?_
  · rw [fieldOf?, List.find?_isSome]
    exact ⟨field, List.mem_of_getElem? here, by simp [named]⟩
  · rw [split, List.length_append, List.length_cons, length, Nat.add_comm after.length,
      ← Nat.add_assoc, ← List.drop_drop, ← List.drop_drop, List.drop_left] at among
    exact sameLater other (List.mem_of_mem_drop among) _

end

end SiteCache.Json
