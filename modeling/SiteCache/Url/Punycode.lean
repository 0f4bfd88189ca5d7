import SiteCache.Text.Split

/-!
Labels of host names with characters outside ASCII, written in ASCII: the ASCII characters first,
then an insertion for each other character, from the lowest code up and from left to right. An
insertion is written as its distance from the one before, a numeral of a variable number of
digits, least digit first.
-/

set_option autoImplicit false

namespace SiteCache.Url.Punycode

def digitChar (d : Nat) : Char := Char.ofNat (if d < 26 then 97 + d else 22 + d)

def digitValue? (c : Char) : Option Nat :=
  if 'a' ≤ c ∧ c ≤ 'z' then some (c.toNat - 97)
  else if 'A' ≤ c ∧ c ≤ 'Z' then some (c.toNat - 65)
  else if '0' ≤ c ∧ c ≤ '9' then some (c.toNat - 22)
  else none

def threshold (place bias : Nat) : Nat := max 1 (min 26 (place - bias))

theorem threshold_bounds (place bias : Nat) :
    1 ≤ threshold place bias ∧ threshold place bias ≤ 26 := by
  unfold threshold
  omega

def encodeNumber (bias place n : Nat) : List Char :=
  let last := threshold place bias
  if n < last then [digitChar n]
  else
    let base := 36 - last
    digitChar (last + (n - last) % base) :: encodeNumber bias (place + 36) ((n - last) / base)
termination_by n
decreasing_by
  have := threshold_bounds place bias
  exact Nat.lt_of_le_of_lt (Nat.div_le_self _ _) (by omega)

def decodeNumber (bias place : Nat) : List Char → Option (Nat × List Char)
  | [] => none
  | c :: rest => do
    let d ← digitValue? c
    let last := threshold place bias
    if d < last then some (d, rest)
    else
      let (higher, rest) ← decodeNumber bias (place + 36) rest
      some (d + (36 - last) * higher, rest)

def biasFor (distance : Nat) : Nat :=
  if distance ≤ 455 then 36 * distance / (distance + 38) else 36 + biasFor (distance / 35)
termination_by distance
decreasing_by exact Nat.div_lt_self (by omega) (by omega)

structure Insertion where
  code : Nat
  position : Nat

/-- The first insertion that is still possible, into a label that has `count` characters. -/
structure Cursor where
  count : Nat
  code : Nat
  position : Nat
  bias : Nat

namespace Cursor

def start (ascii : List Char) : Cursor := ⟨ascii.length, 0x80, 0, 72⟩

/-- Insertions come in the order of their codes, with as many positions for each code as there are
places between, before and after the characters. -/
def distanceTo (c : Cursor) (i : Insertion) : Nat :=
  (i.code - c.code) * (c.count + 1) + i.position - c.position

def insertionAt (c : Cursor) (distance : Nat) : Insertion :=
  let steps := c.position + distance
  ⟨c.code + steps / (c.count + 1), steps % (c.count + 1)⟩

/-- The first distance of a label is the longest as a rule, so the bias discounts it. -/
def after (c : Cursor) (i : Insertion) (distance : Nat) : Cursor :=
  let share := distance / (if c.position = 0 then 700 else 2)
  ⟨c.count + 1, i.code, i.position + 1, biasFor (share + share / (c.count + 1))⟩

end Cursor

def isAscii (c : Char) : Bool := c.toNat < 0x80

def otherCodes (label : List Char) : List Nat :=
  (((label.filter fun c => !isAscii c).map Char.toNat).mergeSort (· ≤ ·)).eraseDups

def insertionsOf (code position : Nat) : List Char → List Insertion
  | [] => []
  | c :: rest =>
    if c.toNat = code then ⟨code, position⟩ :: insertionsOf code (position + 1) rest
    else insertionsOf code (if c.toNat < code then position + 1 else position) rest

def insertions (label : List Char) : List Insertion :=
  (otherCodes label).flatMap fun code => insertionsOf code 0 label

def encodeInsertions (c : Cursor) : List Insertion → List Char
  | [] => []
  | i :: rest =>
    let distance := c.distanceTo i
    encodeNumber c.bias 36 distance ++ encodeInsertions (c.after i distance) rest

def encode (label : List Char) : List Char :=
  let ascii := label.filter isAscii
  ascii ++ (if ascii.isEmpty then [] else ['-']) ++
    encodeInsertions (.start ascii) (insertions label)

def isCharCode (n : Nat) : Bool := n < 0xD800 || (0xDFFF < n && n < 0x110000)

def decodeFrom : Nat → Cursor → List Char → List Char → Option (List Char)
  | _, _, label, [] => some label
  | 0, _, _, _ => none
  | fuel + 1, c, label, s => do
    let (distance, rest) ← decodeNumber c.bias 36 s
    let i := c.insertionAt distance
    -- Codes only grow, so a code beyond the last character ends the matter.
    if isCharCode i.code then
      decodeFrom fuel (c.after i distance) (label.insertIdx i.position (.ofNat i.code)) rest
    else none

def decode (s : List Char) : Option (List Char) :=
  let (ascii, rest) := (Text.splitLast? (· = '-') s).getD ([], s)
  decodeFrom s.length (.start ascii) ascii rest

end SiteCache.Url.Punycode
