import Mathlib.Data.List.Basic
import SiteCache.Proofs.Text.Split
import SiteCache.Proofs.Text.Utf8
import SiteCache.Url.Basic

set_option autoImplicit false

namespace SiteCache.Url

open Text (charOctets)

theorem percentDecode_plain {c : Char} (plain : c ≠ '%') (rest : List Char) :
    percentDecode (c :: rest) = charOctets c ++ percentDecode rest := by
  rw [percentDecode]
  rintro h l rest' rfl
  exact absurd rfl plain

theorem percentDecode_octet (b : UInt8) (rest : List Char) :
    percentDecode (percentOctet b ++ rest) = b :: percentDecode rest := by
  have octet : b.toNat < 256 := b.toNat_lt
  have high := Text.hexValue?_hexDigit (show b.toNat / 16 < 16 by omega)
  have low := Text.hexValue?_hexDigit (show b.toNat % 16 < 16 by omega)
  have whole : 16 * (b.toNat / 16) + b.toNat % 16 = b.toNat := Nat.div_add_mod _ _
  simp [percentOctet, percentDecode, high, low, whole]

theorem percentDecode_octets (bytes : List UInt8) (rest : List Char) :
    percentDecode (bytes.flatMap percentOctet ++ rest) = bytes ++ percentDecode rest := by
  induction bytes with
  | nil => rfl
  | cons b bytes ih =>
    rw [List.flatMap_cons, List.append_assoc, percentDecode_octet, ih, List.cons_append]

theorem hexDigit_isAlphanum {d : Nat} (digit : d < 16) : (Text.hexDigit d).isAlphanum = true := by
  revert d
  decide

theorem mem_percentChar {c d : Char} (member : d ∈ percentChar c) :
    d = '%' ∨ d.isAlphanum = true := by
  obtain ⟨b, -, member⟩ := List.mem_flatMap.mp member
  have octet : b.toNat < 256 := b.toNat_lt
  rcases List.mem_cons.mp member with rfl | member
  · exact .inl rfl
  · rcases List.mem_pair.mp member with rfl | rfl
    · exact .inr (hexDigit_isAlphanum (by omega))
    · exact .inr (hexDigit_isAlphanum (by omega))

namespace Form

def unplus (c : Char) : Char := if c = '+' then ' ' else c

theorem encodeText_chars {s : String} {d : Char} (member : d ∈ encodeText s) :
    d.isAlphanum = true ∨ d ∈ ['*', '-', '.', '_', '+', '%'] := by
  obtain ⟨c, -, member⟩ := List.mem_flatMap.mp member
  unfold encodeChar at member
  split_ifs at member with space plain
  · rw [List.mem_singleton.mp member]
    exact .inr (by decide)
  · rw [List.mem_singleton.mp member]
    rcases Bool.or_eq_true_iff.mp plain with alphanumeric | mark
    · exact .inl alphanumeric
    · have marks := of_decide_eq_true mark
      simp only [List.mem_cons, List.not_mem_nil, or_false] at marks ⊢
      tauto
  · rcases mem_percentChar member with rfl | alphanumeric
    · exact .inr (by decide)
    · exact .inl alphanumeric

theorem ne_of_mem_encodeText {s : String} {c d : Char} (member : d ∈ encodeText s)
    (special : c.isAlphanum = false ∧ c ∉ ['*', '-', '.', '_', '+', '%']) : d ≠ c := by
  rintro rfl
  rcases encodeText_chars member with alphanumeric | mark
  · rw [special.1] at alphanumeric
    cases alphanumeric
  · exact special.2 mark

theorem percentDecode_encodeChar (c : Char) (rest : List Char) :
    percentDecode ((encodeChar c).map unplus ++ rest) = charOctets c ++ percentDecode rest := by
  unfold encodeChar
  split_ifs with space plain
  · rw [space]
    exact percentDecode_plain (by decide) rest
  · have ordinary : c ≠ '+' ∧ c ≠ '%' := by
      constructor <;> rintro rfl <;> exact absurd plain (by decide)
    rw [List.map_singleton, unplus, if_neg ordinary.1]
    exact percentDecode_plain ordinary.2 rest
  · have same : (percentChar c).map unplus = percentChar c := by
      refine (List.map_congr_left fun d member => if_neg ?_).trans (List.map_id _)
      rintro rfl
      rcases mem_percentChar member with percent | alphanumeric
      · cases percent
      · cases alphanumeric
    rw [same]
    exact percentDecode_octets (charOctets c) rest

theorem decodeText_encodeText (s : String) : decodeText (encodeText s) = s := by
  have read : ∀ cs : List Char,
      percentDecode ((cs.flatMap encodeChar).map unplus) = cs.flatMap charOctets := by
    intro cs
    induction cs with
    | nil => rfl
    | cons c cs ih =>
      rw [List.flatMap_cons, List.map_append, percentDecode_encodeChar, ih, List.flatMap_cons]
  have octets : percentDecode ((encodeText s).map unplus) = Text.octets s := by
    rw [encodeText, read, Text.octets_eq]
  rw [decodeText]
  exact (congrArg Text.readOctets octets).trans (Text.readOctets_octets s)

theorem decodePair_encodePair (pair : String × String) : decodePair (encodePair pair) = pair := by
  have found : Text.splitFirst? (· = '=') (encodePair pair) =
      some (encodeText pair.1, encodeText pair.2) :=
    Text.splitFirst?_append_cons (by decide)
      (fun d member => decide_eq_false (ne_of_mem_encodeText member (by decide))) _
  rw [decodePair, found]
  exact Prod.ext (decodeText_encodeText _) (decodeText_encodeText _)

theorem encodePair_whole (pair : String × String) :
    ∀ c ∈ encodePair pair, decide (c = '&') = false := by
  intro c member
  rcases List.mem_append.mp member with name | rest
  · exact decide_eq_false (ne_of_mem_encodeText name (by decide))
  · rcases List.mem_cons.mp rest with rfl | value
    · rfl
    · exact decide_eq_false (ne_of_mem_encodeText value (by decide))

theorem decode_append (query rest : List Char) :
    decode (query ++ '&' :: rest) = decode query ++ decode rest := by
  rw [decode, Text.splitOn_append_cons (by decide), List.filter_append, List.map_append]
  rfl

theorem decode_encodePair (pair : String × String) : decode (encodePair pair) = [pair] := by
  have written : (encodePair pair).isEmpty = false := by simp [encodePair]
  rw [decode, Text.splitOn_whole (encodePair_whole pair)]
  simp [written, decodePair_encodePair]

theorem decode_encode (pairs : Pairs) : decode (encode pairs) = pairs := by
  induction pairs with
  | nil => rfl
  | cons pair rest ih =>
    cases rest with
    | nil => exact decode_encodePair pair
    | cons next rest =>
      rw [encode, decode_append, decode_encodePair, ih, List.singleton_append]
      exact List.cons_ne_nil next rest

end Form

theorem appendPairs_of_ne_nil (u : Url) {pairs : Pairs} (some_pairs : pairs ≠ []) :
    u.appendPairs pairs = { u with query := some (.ofList
      (if (u.query.getD "").toList.isEmpty then Form.encode pairs
        else (u.query.getD "").toList ++ '&' :: Form.encode pairs)) } :=
  appendPairs.eq_2 u pairs some_pairs

theorem queryPairs_appendPairs (u : Url) (pairs : Pairs) :
    (u.appendPairs pairs).queryPairs = u.queryPairs ++ pairs := by
  by_cases none : pairs = []
  · subst none
    exact (List.append_nil _).symm
  · rw [appendPairs_of_ne_nil u none, queryPairs, Option.getD_some, String.toList_ofList]
    split_ifs with unasked
    · rw [queryPairs, List.isEmpty_iff.mp unasked]
      exact Form.decode_encode pairs
    · rw [Form.decode_append, Form.decode_encode]
      rfl

end SiteCache.Url
