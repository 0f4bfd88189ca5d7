import SiteCache.Text.Hexadecimal
import SiteCache.Text.Utf8

set_option autoImplicit false

namespace SiteCache.Url

def percentOctet (b : UInt8) : List Char :=
  ['%', Text.hexDigit (b.toNat / 16), Text.hexDigit (b.toNat % 16)]

def percentChar (c : Char) : List Char := (Text.charOctets c).flatMap percentOctet

def percentEncode (escaped : Char → Bool) (s : List Char) : List Char :=
  s.flatMap fun c => if escaped c then percentChar c else [c]

def percentDecode : List Char → List UInt8
  | '%' :: h :: l :: rest =>
    match Text.hexValue? h, Text.hexValue? l with
    | some h, some l => UInt8.ofNat (16 * h + l) :: percentDecode rest
    | _, _ => Text.charOctets '%' ++ percentDecode (h :: l :: rest)
  | c :: rest => Text.charOctets c ++ percentDecode rest
  | [] => []

def isControl (c : Char) : Bool := c.toNat < 0x20 || 0x7E < c.toNat

def escapedInFragment (c : Char) : Bool := isControl c || c ∈ [' ', '"', '<', '>', '\x60']

def escapedInPath (c : Char) : Bool := escapedInFragment c || c ∈ ['#', '?', '\x7b', '\x7d']

def escapedInUserinfo (c : Char) : Bool :=
  escapedInPath c || c ∈ ['/', ':', ';', '=', '@', '[', '\\', ']', '^', '|']

def escapedInSegment (special : Bool) (c : Char) : Bool :=
  escapedInPath c || c = '/' || c = '%' || (special && c = '\\')

def escapedInQuery (special : Bool) (c : Char) : Bool :=
  isControl c || c ∈ [' ', '"', '#', '<', '>'] || (special && c = '\'')

end SiteCache.Url
