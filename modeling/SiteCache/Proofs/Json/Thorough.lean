import SiteCache.Proofs.Json.Grammar
import SiteCache.Proofs.Json.Members

set_option autoImplicit false

namespace SiteCache.Json

def Thorough {α : Type} (decoder : Decoder α) : Prop :=
  ∀ node a, decoder node = .ok a → node.skipFault? = none

theorem mismatch_ne_ok {α : Type} (expected : String) (node : Node) (a : α) :
    mismatch expected node ≠ .ok a := by
  intro done
  unfold mismatch at done
  dsimp only at done
  split at done <;>
    (obtain ⟨_, -, done⟩ := bind_eq_ok.mp done
     cases done)

theorem fault?_of_charsOf {ending : LiteralEnd} {pieces : List Piece} {s : List Char}
    (chars : charsOf ending pieces = .ok s) : ending.fault? = none := by
  fun_induction charsOf ending pieces generalizing s with
  | case1 none => exact none
  | case2 fault broken => cases chars
  | case3 _ _ ih | case6 _ _ _ ih | case9 _ _ _ _ _ ih | case11 _ _ _ _ _ _ ih
  | case13 _ _ _ _ _ ih =>
    obtain ⟨s, rest, -⟩ := map_eq_ok.mp chars
    exact ih rest
  | _ => cases chars

theorem skipFault?_of_text {l : Literal} {s : String} (text : l.text = .ok s) :
    l.ending.skipFault? = none := by
  obtain ⟨chars, read, -⟩ := map_eq_ok.mp text
  have proper := fault?_of_charsOf read
  unfold LiteralEnd.skipFault?
  split
  · rfl
  · exact proper

theorem exists_parse_of_parsed {α : Type} {expected : String} {parse : String → Except String α}
    {node : Node} {a : α} (done : Decode.parsed expected parse node = .ok a) :
    ∃ s, parse s = .ok a := by
  unfold Decode.parsed at done
  split at done
  · obtain ⟨s, -, read⟩ := bind_eq_ok.mp done
    split at read
    · rename_i parsed
      cases read
      exact ⟨s, parsed⟩
    · cases read
  · exact absurd done (mismatch_ne_ok _ _ a)

theorem decoded_of_nullable {α : Type} {inner : Decoder α} {node : Node} {found : Option α}
    (done : Decode.nullable inner node = .ok found) : ∀ a ∈ found, inner node = .ok a := by
  unfold Decode.nullable at done
  split at done
  · cases done
    exact nofun
  · obtain ⟨a, read, rfl⟩ := map_eq_ok.mp done
    rintro _ ⟨⟩
    exact read

namespace Thorough

variable {α : Type}

theorem text : Thorough Decode.text := by
  intro node a done
  unfold Decode.text at done
  split at done
  · exact skipFault?_of_text (textOf_eq_ok.mp done)
  · exact absurd done (mismatch_ne_ok _ _ a)

theorem boolean : Thorough Decode.boolean := by
  intro node a done
  unfold Decode.boolean at done
  split at done
  · rfl
  · exact absurd done (mismatch_ne_ok _ _ a)

theorem int64 : Thorough Decode.int64 := by
  intro node a done
  unfold Decode.int64 at done
  split at done
  · rfl
  · exact absurd done (mismatch_ne_ok _ _ a)

theorem unit : Thorough Decode.unit := by
  intro node a done
  unfold Decode.unit at done
  split at done
  · rfl
  · exact absurd done (mismatch_ne_ok _ _ a)

theorem nullable {inner : Decoder α} (thorough : Thorough inner) :
    Thorough (Decode.nullable inner) := by
  intro node a done
  unfold Decode.nullable at done
  split at done
  · rfl
  · obtain ⟨b, read, -⟩ := map_eq_ok.mp done
    exact thorough _ b read

theorem parsed (expected : String) (parse : String → Except String α) :
    Thorough (Decode.parsed expected parse) := by
  intro node a done
  unfold Decode.parsed at done
  split at done
  · obtain ⟨s, text, -⟩ := bind_eq_ok.mp done
    exact skipFault?_of_text (textOf_eq_ok.mp text)
  · exact absurd done (mismatch_ne_ok _ _ a)

theorem choice (ofName : String → Except DecodeError α) : Thorough (Decode.choice ofName) := by
  intro node a done
  unfold Decode.choice at done
  split at done
  · obtain ⟨s, text, -⟩ := bind_eq_ok.mp done
    exact skipFault?_of_text (textOf_eq_ok.mp text)
  · cases done
  · cases done
  · rename_i value rest ending
    obtain ⟨s, text, done⟩ := bind_eq_ok.mp done
    obtain ⟨b, -, done⟩ := bind_eq_ok.mp done
    obtain ⟨_, null, done⟩ := bind_eq_ok.mp done
    split at done
    · exact skipFault?_object.mpr ⟨skipMembers?_cons.mpr
        ⟨skipFault?_of_text (textOf_eq_ok.mp text), unit value _ null, rfl⟩, rfl⟩
    · cases done
    · cases done
  · exact absurd done (mismatch_ne_ok _ _ a)
  all_goals cases done

theorem items {inner : Decoder α} (thorough : Thorough inner) {nodes : List Node}
    {ending : Option Fault} {as : List α} (done : Decode.items inner nodes ending = .ok as) :
    skipItems? nodes = none ∧ ending = none := by
  induction nodes generalizing as with
  | nil =>
    cases ending with
    | none => exact ⟨rfl, rfl⟩
    | some fault => cases done
  | cons node rest ih =>
    obtain ⟨a, first, done⟩ := bind_eq_ok.mp done
    obtain ⟨as, others, -⟩ := bind_eq_ok.mp done
    obtain ⟨later, ended⟩ := ih others
    exact ⟨skipItems?_cons.mpr ⟨thorough node a first, later⟩, ended⟩

theorem list {inner : Decoder α} (thorough : Thorough inner) : Thorough (Decode.list inner) := by
  intro node as done
  unfold Decode.list at done
  split at done
  · exact skipFault?_array.mpr (thorough.items done)
  · exact absurd done (mismatch_ne_ok _ _ as)

end Thorough

namespace Shape

variable {α β : Type}

def Thorough (shape : Shape α) : Prop :=
  ∀ field ∈ shape.fields, ∀ node, field.check node = .ok () → node.skipFault? = none

@[simp] theorem thorough_constant (a : α) : (constant a).Thorough := nofun

@[simp] theorem thorough_also {f : Shape (α → β)} {x : Shape α} :
    (f.also x).Thorough ↔ f.Thorough ∧ x.Thorough := List.forall_mem_append

@[simp] theorem thorough_field {name : String} {presence : Presence} {decoder : Decoder α}
    {absent : Except DecodeError α} :
    (field name presence decoder absent).Thorough ↔ Json.Thorough decoder := by
  refine List.forall_mem_singleton.trans (forall_congr' fun node => ?_)
  simp only [map_eq_ok, and_true, forall_exists_index]

theorem checkItems_thorough {fields : List Field} {items : List Node}
    (thorough : ∀ field ∈ fields, ∀ node, field.check node = .ok () → node.skipFault? = none)
    (checked : checkItems fields items = .ok ()) (fits : items.length ≤ fields.length) :
    skipItems? items = none := by
  induction fields generalizing items with
  | nil =>
    cases items with
    | nil => rfl
    | cons item items => cases fits
  | cons field fields ih =>
    cases items with
    | nil => rfl
    | cons item items =>
      obtain ⟨here, later⟩ := List.forall_mem_cons.mp thorough
      obtain ⟨first, others⟩ := check_bind_eq_ok.mp checked
      exact skipItems?_cons.mpr ⟨here item first, ih later others (Nat.le_of_succ_le_succ fits)⟩

theorem ofItems_ok {shape : Shape α} {title : String} {items : List Node} {ending : Option Fault}
    {a : α} (made : ofItems title shape items ending = .ok a) :
    ending = none ∧ checkItems shape.fields items = .ok () ∧ items.length ≤ shape.fields.length ∧
      ∃ slots, shape.build slots = .ok a := by
  unfold ofItems at made
  obtain ⟨_, checked, rest⟩ := bind_eq_ok.mp made
  clear made
  dsimp only at rest
  split at rest
  · cases rest
  · cases rest
  · split at rest <;> cases rest
  · rename_i nothing
    split at rest
    · cases rest
    · exact ⟨rfl, checked, List.drop_eq_nil_iff.mp nothing, _, rest⟩

theorem Thorough.decoder {shape : Shape α} (thorough : shape.Thorough) (title : String) :
    Json.Thorough (shape.decoder title) := by
  intro node a done
  unfold Shape.decoder at done
  split at done
  · obtain ⟨rfl, collects, -⟩ := ofMembers_eq_ok.mp done
    refine skipFault?_object.mpr ⟨skipMembers?_eq_none.mpr fun m among => ?_, rfl⟩
    obtain ⟨⟨key, value⟩, named, admits⟩ := collects.admitted m among
    obtain ⟨⟨l, literal, text⟩, rfl⟩ := slot?_eq_some.mp named
    refine ⟨⟨l, literal, skipFault?_of_text text⟩, ?_⟩
    unfold Admits at admits
    split at admits <;> rename_i known
    · exact thorough _ (List.mem_of_find?_eq_some known) _ admits
    · exact admits
  · obtain ⟨rfl, checked, fits, -⟩ := ofItems_ok done
    exact skipFault?_array.mpr ⟨checkItems_thorough thorough checked fits, rfl⟩
  · exact absurd done (mismatch_ne_ok _ _ a)

def Yields (shape : Shape α) (P : α → Prop) : Prop := ∀ slots a, shape.build slots = .ok a → P a

theorem Yields.constant {P : α → Prop} {a : α} (holds : P a) : (Shape.constant a).Yields P := by
  rintro slots _ ⟨⟩
  exact holds

theorem Yields.field {P : α → Prop} {name : String} {presence : Presence} {decoder : Decoder α}
    {absent : Except DecodeError α} (decoded : ∀ node a, decoder node = .ok a → P a)
    (otherwise : ∀ a, absent = .ok a → P a) :
    (field name presence decoder absent).Yields P := by
  intro slots a made
  unfold Shape.field at made
  dsimp only at made
  split at made
  · exact decoded _ a made
  · exact otherwise a made

theorem Yields.also_of {f : Shape (α → β)} {x : Shape α} {P : β → Prop} {Q : α → Prop}
    (second : x.Yields Q) (first : f.Yields fun g => ∀ a, Q a → P (g a)) : (f.also x).Yields P := by
  intro slots b made
  obtain ⟨g, before, made⟩ := bind_eq_ok.mp made
  obtain ⟨a, after, made⟩ := bind_eq_ok.mp made
  cases made
  exact first _ g before a (second _ a after)

theorem Yields.also {f : Shape (α → β)} {x : Shape α} {P : β → Prop}
    (every : f.Yields fun g => ∀ a, P (g a)) : (f.also x).Yields P :=
  have any : x.Yields fun _ => True := fun _ _ _ => trivial
  any.also_of fun slots g made a _ => every slots g made a

theorem Yields.decoder {shape : Shape α} {P : α → Prop} (yields : shape.Yields P) {title : String}
    {node : Node} {a : α} (made : shape.decoder title node = .ok a) : P a := by
  unfold Shape.decoder at made
  split at made
  · exact yields _ a (ofMembers_eq_ok.mp made).2.2.2
  · obtain ⟨-, -, -, slots, built⟩ := ofItems_ok made
    exact yields slots a built
  · exact absurd made (mismatch_ne_ok _ _ a)

end Shape

end SiteCache.Json
