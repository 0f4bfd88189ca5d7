set_option autoImplicit false

namespace SiteCache.Text

def octets (s : String) : List UInt8 := s.toByteArray.data.toList

def ofOctets? (bytes : List UInt8) : Option String := String.fromUTF8? ⟨bytes.toArray⟩

def charOctets (c : Char) : List UInt8 := String.utf8EncodeChar c

def replacement : Char := Char.ofNat 0xFFFD

/-- How far a character has been read: `pending` octets are still to come, the next one between
`low` and `high`. -/
inductive Utf8State where
  | start
  | inside (pending value low high : Nat)

def leadOctet (b : Nat) : List Char × Utf8State :=
  if b < 0x80 then ([Char.ofNat b], .start)
  else if 0xC2 ≤ b ∧ b ≤ 0xDF then ([], .inside 1 (b - 0xC0) 0x80 0xBF)
  else if b = 0xE0 then ([], .inside 2 0 0xA0 0xBF)
  else if b = 0xED then ([], .inside 2 0xD 0x80 0x9F)
  else if 0xE1 ≤ b ∧ b ≤ 0xEF then ([], .inside 2 (b - 0xE0) 0x80 0xBF)
  else if b = 0xF0 then ([], .inside 3 0 0x90 0xBF)
  else if 0xF1 ≤ b ∧ b ≤ 0xF3 then ([], .inside 3 (b - 0xF0) 0x80 0xBF)
  else if b = 0xF4 then ([], .inside 3 4 0x80 0x8F)
  else ([replacement], .start)

def readOctetsFrom : Utf8State → List UInt8 → List Char
  | .start, [] => []
  | .inside .., [] => [replacement]
  | .start, b :: rest =>
    let (out, state) := leadOctet b.toNat
    out ++ readOctetsFrom state rest
  | .inside pending value low high, b :: rest =>
    if low ≤ b.toNat ∧ b.toNat ≤ high then
      let value := 64 * value + (b.toNat - 0x80)
      if pending ≤ 1 then Char.ofNat value :: readOctetsFrom .start rest
      else readOctetsFrom (.inside (pending - 1) value 0x80 0xBF) rest
    else
      let (out, state) := leadOctet b.toNat
      replacement :: out ++ readOctetsFrom state rest

def readOctets (bytes : List UInt8) : String := .ofList (readOctetsFrom .start bytes)

end SiteCache.Text
