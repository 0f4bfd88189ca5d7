import SiteCache.Text.Decimal
import SiteCache.Text.Split
import SiteCache.Url.Percent

set_option autoImplicit false

namespace SiteCache.Url

def isDot (c : Char) : Bool := c = '.'

def isColon (c : Char) : Bool := c = ':'

def digitsIn (base : Nat) (s : List Char) : Option Nat :=
  s.foldlM (fun n c => do
    let d ← Text.hexValue? c
    if d < base then some (base * n + d) else none) 0

def readIpv4Number : List Char → Option Nat
  | [] => none
  | '0' :: 'x' :: digits | '0' :: 'X' :: digits => digitsIn 16 digits
  | '0' :: d :: digits => digitsIn 8 (d :: digits)
  | digits => digitsIn 10 digits

def ipv4Parts (s : List Char) : List (List Char) :=
  let parts := Text.splitOn isDot s
  if parts.getLast? = some [] then parts.dropLast else parts

/-- A host whose last part is a number has to be an IPv4 address. -/
def endsInNumber (s : List Char) : Bool :=
  match (ipv4Parts s).getLast? with
  | none => false
  | some part => (!part.isEmpty && part.all Char.isDigit) || (readIpv4Number part).isSome

def readIpv4 (s : List Char) : Option UInt32 := do
  let numbers ← (ipv4Parts s).mapM readIpv4Number
  let last ← numbers.getLast?
  let leading := numbers.dropLast
  let weight := Nat.pow 256 (4 - leading.length)
  if 4 < numbers.length || leading.any (255 < ·) || weight ≤ last then none
  else
    let high := leading.foldl (fun n octet => 256 * n + octet) 0
    some (.ofNat (high * weight + last))

def ipv4Text (address : UInt32) : List Char :=
  let n := address.toNat
  let octet (i : Nat) : List Char := Text.digitsOf (n / Nat.pow 256 i % 256)
  octet 3 ++ '.' :: octet 2 ++ '.' :: octet 1 ++ '.' :: octet 0

def readOctet (s : List Char) : Option Nat :=
  match s with
  | [] => none
  | ['0'] => some 0
  | '0' :: _ => none
  | _ => do
    let n ← digitsIn 10 s
    if n ≤ 255 then some n else none

def readDotted (s : List Char) : Option (List UInt16) := do
  match ← (Text.splitOn isDot s).mapM readOctet with
  | [a, b, c, d] => some [.ofNat (256 * a + b), .ofNat (256 * c + d)]
  | _ => none

def readGroup (s : List Char) : Option UInt16 :=
  if s.isEmpty || 4 < s.length then none else (digitsIn 16 s).map UInt16.ofNat

/-- The groups between colons; the last part may be an address in dots, for two groups. -/
def readGroups (dotted : Bool) : List (List Char) → Option (List UInt16)
  | [] => some []
  | [part] =>
    if dotted && part.any isDot then readDotted part else (readGroup part).map fun g => [g]
  | part :: rest => do
    let group ← readGroup part
    let groups ← readGroups dotted rest
    some (group :: groups)

def splitGap? : List Char → Option (List Char × List Char)
  | ':' :: ':' :: rest => some ([], rest)
  | c :: rest => (splitGap? rest).map fun (before, after) => (c :: before, after)
  | [] => none

def groupParts (s : List Char) : List (List Char) :=
  if s.isEmpty then [] else Text.splitOn isColon s

def readIpv6 (s : List Char) : Option (List UInt16) := do
  match splitGap? s with
  | none =>
    let groups ← readGroups true (groupParts s)
    if groups.length = 8 then some groups else none
  | some (before, after) =>
    let left ← readGroups false (groupParts before)
    let right ← readGroups true (groupParts after)
    if left.length + right.length ≤ 7 then
      some (left ++ List.replicate (8 - left.length - right.length) 0 ++ right)
    else none

/-- Where the first of the longest runs of zero groups begins, and its length. -/
def longestGap : Nat → List UInt16 → Nat × Nat
  | _, [] => (0, 0)
  | i, g :: rest =>
    let here := ((g :: rest).takeWhile (· = 0)).length
    let later := longestGap (i + 1) rest
    if later.2 ≤ here then (i, here) else later

def groupText (g : UInt16) : List Char := Nat.toDigits 16 g.toNat

def groupsText (groups : List UInt16) : List Char := [':'].intercalate (groups.map groupText)

def ipv6Text (groups : List UInt16) : List Char :=
  let (start, length) := longestGap 0 groups
  if length < 2 then groupsText groups
  else groupsText (groups.take start) ++ ':' :: ':' :: groupsText (groups.drop (start + length))

end SiteCache.Url
