import SiteCache.Json.Octets
import SiteCache.Proofs.Json.Accepted
import SiteCache.Proofs.Json.Written
import SiteCache.Proofs.Text.Utf8

set_option autoImplicit false

namespace SiteCache.Json

/-- Octets that spell a tree. Those that are no text in UTF-8 stand between the quotes of literals,
where each of them counts as a character. -/
inductive IsJson : List UInt8 → Node → Prop
  | text {s : String} {root : Node} (spelled : Spells s.toList (.element root)) :
      IsJson (Text.octets s) root
  | octets {body : List UInt8} {tree : Node} (foreign : Text.ofOctets? body = none)
      (spelled : Spells (body.map octetChar) (.element tree)) : IsJson body tree.spelled

theorem LiteralEnd.spelled_skipFault? (ending : LiteralEnd) :
    ending.spelled.skipFault? = none ↔ ending.skipFault? = none := by
  cases ending <;> simp [LiteralEnd.spelled, LiteralEnd.skipFault?, LiteralEnd.fault?]

theorem Literal.spelled_skipFault? (l : Literal) :
    l.spelled.ending.skipFault? = none ↔ l.ending.skipFault? = none := by
  rw [Literal.spelled]
  split
  · exact l.ending.spelled_skipFault?
  · split <;> rename_i closed
    · rw [closed]
      rfl
    · exact l.ending.spelled_skipFault?

mutual

theorem Node.spelled_skipFault? (node : Node) :
    node.spelled.skipFault? = none ↔ node.skipFault? = none := by
  match node with
  | .string l => exact l.spelled_skipFault?
  | .array items ending =>
    rw [Node.spelled, skipFault?_array, skipFault?_array, spelledItems_skipFault? items]
  | .object members ending =>
    rw [Node.spelled, skipFault?_object, skipFault?_object, spelledMembers_skipFault? members]
  | .null | .bool _ | .number _ | .fault _ => rfl

theorem spelledItems_skipFault? (items : List Node) :
    skipItems? (spelledItems items) = none ↔ skipItems? items = none := by
  match items with
  | [] => rfl
  | item :: rest =>
    rw [spelledItems, skipItems?_cons, skipItems?_cons, item.spelled_skipFault?,
      spelledItems_skipFault? rest]

theorem spelledMembers_skipFault? (members : List (Node × Node)) :
    skipMembers? (spelledMembers members) = none ↔ skipMembers? members = none := by
  match members with
  | [] => rfl
  | (.string l, value) :: rest =>
    rw [spelledMembers, Node.spelled, skipMembers?_cons, skipMembers?_cons, l.spelled_skipFault?,
      value.spelled_skipFault?, spelledMembers_skipFault? rest]
  | (.null, _) :: _ | (.bool _, _) :: _ | (.number _, _) :: _ | (.array _ _, _) :: _
  | (.object _ _, _) :: _ | (.fault _, _) :: _ => simp [spelledMembers, Node.spelled, skipMembers?]

end

theorem isJson_iff (body : List UInt8) (root : Node) :
    IsJson body root ↔ Document.ofOctets body = ⟨root, false⟩ ∧ root.skipFault? = none := by
  constructor
  · rintro (⟨spelled⟩ | ⟨foreign, spelled⟩)
    · rw [Document.ofOctets, Text.ofOctets?_octets]
      exact (ofText_iff _ root).mpr spelled
    · rename_i tree
      have read : Document.ofText (.ofList (body.map octetChar)) = ⟨tree, false⟩ :=
        ofText_spelled (by rwa [String.toList_ofList])
      rw [Document.ofOctets, foreign]
      dsimp only
      rw [read]
      exact ⟨rfl, tree.spelled_skipFault?.mpr spelled.faultless⟩
  · rintro ⟨read, sound⟩
    rw [Document.ofOctets] at read
    cases found : Text.ofOctets? body with
    | some s =>
      rw [found] at read
      rw [← Text.octets_of_ofOctets? found]
      exact .text ((ofText_iff s root).mp ⟨read, sound⟩)
    | none =>
      rw [found] at read
      generalize decoded : Document.ofText (.ofList (body.map octetChar)) = document at read
      obtain ⟨tree, trailing⟩ := document
      obtain ⟨rfl, rfl⟩ := Document.mk.inj read
      have spelled := (ofText_iff _ tree).mp ⟨decoded, tree.spelled_skipFault?.mp sound⟩
      rw [String.toList_ofList] at spelled
      exact .octets found spelled

theorem isJson_render (v : Value) : IsJson (Text.octets v.render) v.node := by
  refine .text ?_
  rw [Value.render, String.toList_ofList]
  exact (write_spelled v).unspaced

end SiteCache.Json
