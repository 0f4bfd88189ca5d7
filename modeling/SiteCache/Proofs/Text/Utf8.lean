import Mathlib.Data.List.TakeWhile
import Mathlib.Tactic.IntervalCases
import SiteCache.Text.Utf8

set_option autoImplicit false

namespace SiteCache.Text

theorem octets_ofList (cs : List Char) : octets (.ofList cs) = cs.flatMap charOctets := by
  rw [octets, String.toByteArray_ofList, List.utf8Encode]
  simp
  rfl

theorem octets_eq (s : String) : octets s = s.toList.flatMap charOctets := by
  rw [← octets_ofList, String.ofList_toList]

theorem charOctets_ascii {c : Char} (ascii : c.toNat < 0x80) :
    charOctets c = [UInt8.ofNat c.toNat] := by
  have low : c.val.toNat ≤ 127 := Nat.le_of_lt_succ ascii
  rw [charOctets, String.utf8EncodeChar]
  exact if_pos low

theorem charOctets_beyond {c : Char} (beyond : 0x80 ≤ c.toNat) :
    ∀ b ∈ charOctets c, 0x80 ≤ b.toNat := by
  have high : ¬ c.val.toNat ≤ 127 := Nat.not_le.mpr beyond
  unfold charOctets String.utf8EncodeChar
  dsimp only
  rw [if_neg high]
  split_ifs <;>
    simp only [List.mem_cons, List.not_mem_nil, or_false, forall_eq_or_imp, forall_eq,
      UInt8.toNat_ofNat'] <;>
    omega

theorem ofOctets?_octets (s : String) : ofOctets? (octets s) = some s := by
  have valid : s.toByteArray.IsValidUTF8 := s.isValidUTF8
  have whole : (⟨(octets s).toArray⟩ : ByteArray) = s.toByteArray := rfl
  rw [ofOctets?, whole, String.fromUTF8?, dif_pos valid]
  exact congrArg some (String.toByteArray_inj.mp rfl)

theorem octets_of_ofOctets? {bytes : List UInt8} {s : String} (read : ofOctets? bytes = some s) :
    octets s = bytes := by
  rw [ofOctets?, String.fromUTF8?] at read
  split at read
  · cases read
    rfl
  · cases read

-- A leading octet leaves its low bits, and the bounds of the octet behind it keep out what has a
-- shorter form or is no character.
theorem leadOctet_two {b : Nat} (least : 0xC2 ≤ b) (most : b ≤ 0xDF) :
    leadOctet b = ([], .inside 1 (b - 0xC0) 0x80 0xBF) := by
  rw [leadOctet, if_neg (by omega), if_pos ⟨least, most⟩]

theorem leadOctet_three {b : Nat} (least : 0xE0 ≤ b) (most : b ≤ 0xEF) :
    leadOctet b = ([], .inside 2 (b - 0xE0) (if b = 0xE0 then 0xA0 else 0x80)
      (if b = 0xED then 0x9F else 0xBF)) := by
  interval_cases b <;> rfl

theorem leadOctet_four {b : Nat} (least : 0xF0 ≤ b) (most : b ≤ 0xF4) :
    leadOctet b = ([], .inside 3 (b - 0xF0) (if b = 0xF0 then 0x90 else 0x80)
      (if b = 0xF4 then 0x8F else 0xBF)) := by
  interval_cases b <;> rfl

theorem readOctetsFrom_lead {b : Nat} {state : Utf8State} (octet : b < 0x100)
    (lead : leadOctet b = ([], state)) (rest : List UInt8) :
    readOctetsFrom .start (UInt8.ofNat b :: rest) = readOctetsFrom state rest := by
  rw [readOctetsFrom, UInt8.toNat_ofNat_of_lt' octet, lead]
  rfl

theorem readOctetsFrom_last {value low high d : Nat} (small : d < 64) (least : low ≤ d + 128)
    (most : d + 128 ≤ high) (rest : List UInt8) :
    readOctetsFrom (.inside 1 value low high) (UInt8.ofNat (d + 128) :: rest) =
      Char.ofNat (64 * value + d) :: readOctetsFrom .start rest := by
  have octet : (UInt8.ofNat (d + 128)).toNat = d + 128 :=
    UInt8.toNat_ofNat_of_lt' (show d + 128 < 256 by omega)
  rw [readOctetsFrom, octet, if_pos ⟨least, most⟩, Nat.add_sub_cancel]
  rfl

theorem readOctetsFrom_inner {pending value low high d : Nat} (small : d < 64)
    (least : low ≤ d + 128) (most : d + 128 ≤ high) (rest : List UInt8) :
    readOctetsFrom (.inside (pending + 2) value low high) (UInt8.ofNat (d + 128) :: rest) =
      readOctetsFrom (.inside (pending + 1) (64 * value + d) 0x80 0xBF) rest := by
  have octet : (UInt8.ofNat (d + 128)).toNat = d + 128 :=
    UInt8.toNat_ofNat_of_lt' (show d + 128 < 256 by omega)
  rw [readOctetsFrom, octet, if_pos ⟨least, most⟩, Nat.add_sub_cancel]
  rfl

theorem readOctetsFrom_charOctets (c : Char) (rest : List UInt8) :
    readOctetsFrom .start (charOctets c ++ rest) = c :: readOctetsFrom .start rest := by
  have valid : c.val.toNat < 0xD800 ∨ 0xDFFF < c.val.toNat ∧ c.val.toNat < 0x110000 := c.valid
  have same : Char.ofNat c.val.toNat = c := c.ofNat_toNat
  rw [charOctets, String.utf8EncodeChar]
  generalize c.val.toNat = v at valid same
  split_ifs with one two three <;> simp only [List.cons_append, List.nil_append]
  · rw [readOctetsFrom, UInt8.toNat_ofNat_of_lt' (show v < 256 by omega), leadOctet,
      if_pos (by omega), same]
    rfl
  · rw [readOctetsFrom_lead (by omega) (leadOctet_two (by omega) (by omega)),
      readOctetsFrom_last (by omega) (by omega) (by omega)]
    rw [show 64 * (v / 64 % 32 + 192 - 192) + v % 64 = v by omega, same]
  · rw [readOctetsFrom_lead (by omega) (leadOctet_three (by omega) (by omega)),
      readOctetsFrom_inner (by omega) (by split_ifs <;> omega) (by split_ifs <;> omega),
      readOctetsFrom_last (by omega) (by omega) (by omega)]
    rw [show 64 * (64 * (v / 4096 % 16 + 224 - 224) + v / 64 % 64) + v % 64 = v by omega, same]
  · rw [readOctetsFrom_lead (by omega) (leadOctet_four (by omega) (by omega)),
      readOctetsFrom_inner (by omega) (by split_ifs <;> omega) (by split_ifs <;> omega),
      readOctetsFrom_inner (by omega) (by omega) (by omega),
      readOctetsFrom_last (by omega) (by omega) (by omega)]
    rw [show 64 * (64 * (64 * (v / 262144 % 8 + 240 - 240) + v / 4096 % 64) + v / 64 % 64) +
      v % 64 = v by omega, same]

theorem readOctets_octets (s : String) : readOctets (octets s) = s := by
  have read : ∀ cs : List Char, readOctetsFrom .start (cs.flatMap charOctets) = cs := by
    intro cs
    induction cs with
    | nil => rfl
    | cons c cs ih => rw [List.flatMap_cons, readOctetsFrom_charOctets, ih]
  rw [readOctets, octets_eq, read, String.ofList_toList]

end SiteCache.Text
