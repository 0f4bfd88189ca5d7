import SiteCache.Proofs.Json.Literal
import SiteCache.Proofs.Json.Numeral
import SiteCache.Proofs.Json.Reading

set_option autoImplicit false

namespace SiteCache.Json

mutual

def Value.node : Value → Node
  | .null => .null
  | .bool b => .bool b
  | .int n => .number (writtenNumeral n)
  | .string s => .string (writtenLiteral s)
  | .array items => .array (itemNodes items) none
  | .object members => .object (memberNodes members) none

def itemNodes : List Value → List Node
  | [] => []
  | item :: rest => item.node :: itemNodes rest

def memberNodes : List (String × Value) → List (Node × Node)
  | [] => []
  | (key, value) :: rest => (.string (writtenLiteral key), value.node) :: memberNodes rest

end

theorem Spells.unspaced {s : List Char} {node : Node} (spelled : Spells s (.value node)) :
    Spells s (.element node) := by
  have element : Spells ([] ++ (s ++ [])) (.element node) := .element spaces_nil spaces_nil spelled
  rwa [List.nil_append, List.append_nil] at element

theorem writeString_spelled (s : String) :
    Spells (writeString s) (.value (.string (writtenLiteral s))) :=
  .string (escaped_spelled s.toList)

mutual

theorem write_spelled (v : Value) : Spells v.write (.value v.node) := by
  match v with
  | .null => exact .null
  | .bool true => exact .true
  | .bool false => exact .false
  | .int n => exact signedDigits_spelled n
  | .string s => exact writeString_spelled s
  | .array [] => exact .emptyArray spaces_nil
  | .object [] => exact .emptyObject spaces_nil
  | .array (item :: items) =>
    obtain ⟨s, written, spelled⟩ := writeItems_spelled item items
    rw [Value.write, List.cons_append, written]
    exact .array spelled
  | .object ((key, value) :: members) =>
    obtain ⟨s, written, spelled⟩ := writeMembers_spelled key value members
    rw [Value.write, List.append_assoc, List.cons_append, List.cons_append, written]
    exact .object spelled
termination_by sizeOf v

theorem writeItems_spelled (item : Value) (items : List Value) :
    ∃ s, item.write ++ writeItems items = s ++ [']'] ∧
      Spells s (.items (itemNodes (item :: items))) := by
  have first := (write_spelled item).unspaced
  match items with
  | [] => exact ⟨item.write, rfl, .item first⟩
  | next :: items =>
    obtain ⟨s, written, spelled⟩ := writeItems_spelled next items
    refine ⟨item.write ++ ',' :: s, ?_, .items first spelled⟩
    rw [writeItems, List.cons_append, written, List.append_assoc, List.cons_append]
termination_by sizeOf item + sizeOf items + 1

theorem writeMembers_spelled (key : String) (value : Value) (members : List (String × Value)) :
    ∃ s, writeString key ++ ':' :: (value.write ++ writeMembers members) = s ++ ['\x7d'] ∧
      Spells s (.members (memberNodes ((key, value) :: members))) := by
  have name := (writeString_spelled key).unspaced
  have content := (write_spelled value).unspaced
  match members with
  | [] =>
    refine ⟨writeString key ++ ':' :: value.write, ?_, .member name content⟩
    rw [writeMembers, List.append_assoc, List.cons_append]
  | (nextKey, nextValue) :: members =>
    obtain ⟨s, written, spelled⟩ := writeMembers_spelled nextKey nextValue members
    refine ⟨writeString key ++ ':' :: (value.write ++ ',' :: s), ?_, .members name content spelled⟩
    simp only [writeMembers, List.append_assoc, List.cons_append] at written ⊢
    rw [written]
termination_by sizeOf value + sizeOf members + 1

end

theorem ofText_render (v : Value) : Document.ofText v.render = ⟨v.node, false⟩ := by
  apply ofText_spelled
  rw [Value.render, String.toList_ofList]
  exact (write_spelled v).unspaced

end SiteCache.Json
