import SiteCache.Text.Blank
import SiteCache.Text.Lowercase
import SiteCache.Url.Address
import SiteCache.Url.Error
import SiteCache.Url.Punycode

/-!
Hosts. The name of a host is written in lowercase ASCII; labels with other characters are encoded.
Beyond ASCII the mapping is that of UTS 46 only for characters that it keeps, lowers one by one,
leaves out, or maps to ASCII as their wide forms: ligatures, numeral letters, decomposed accents and
the letters that it maps to capitals are outside of what is modelled.
-/

set_option autoImplicit false

namespace SiteCache.Url

inductive Host where
  | name (text : String)
  | ipv4 (address : UInt32)
  | ipv6 (groups : List UInt16)
  deriving DecidableEq, Repr

namespace Host

def none : Host := .name ""

def text : Host → List Char
  | .name text => text.toList
  | .ipv4 address => ipv4Text address
  | .ipv6 groups => '[' :: ipv6Text groups ++ [']']

end Host

def isForbiddenInName (c : Char) : Bool :=
  c.toNat ≤ 0x20 || c.toNat = 0x7F ||
    c ∈ ['%', '#', '/', ':', '<', '>', '?', '@', '[', '\\', ']', '^', '|']

def foldAscii (c : Char) : Option (List Char) :=
  if isForbiddenInName c then none else some [c.toLower]

def isIdeographicStop (c : Char) : Bool := c.toNat = 0x3002 || c.toNat = 0xFF61

def isInvisible (c : Char) : Bool :=
  c.toNat = 0xAD || c.toNat = 0x200B || c.toNat = 0x2060 || c.toNat = 0xFEFF ||
    (0xFE00 ≤ c.toNat && c.toNat ≤ 0xFE0F)

/-- Wide forms of ASCII characters stand for these characters. Of all others beyond ASCII only the
simple lowercase mapping is known here, which for most of them is what UTS 46 asks for. -/
def foldNameChar (c : Char) : Option (List Char) :=
  if c.toNat < 0x80 then foldAscii c
  else if isIdeographicStop c then some ['.']
  else if isInvisible c then some []
  else if 0xFF01 ≤ c.toNat ∧ c.toNat ≤ 0xFF5E then foldAscii (.ofNat (c.toNat - 0xFEE0))
  else if c.toNat < 0xA0 || Text.isBlank c || c = Text.replacement then none
  else some (Text.lowerChar c)

def encodingMark : List Char := ['x', 'n', '-', '-']

/-- An encoded label has to encode what needs it, in the way it is encoded. -/
def isSoundEncoding (s : List Char) : Bool :=
  match Punycode.decode s with
  | none => false
  | some label =>
    label.any (fun c => !Punycode.isAscii c) && Punycode.encode label == s &&
      (label.mapM foldNameChar).map List.flatten == some label

def asciiLabel (label : List Char) : Option (List Char) :=
  if label.all Punycode.isAscii then
    if encodingMark.isPrefixOf label && !isSoundEncoding (label.drop 4) then none else some label
  else some (encodingMark ++ Punycode.encode label)

def asciiName (s : List Char) : Option (List Char) := do
  let folded ← s.mapM foldNameChar
  let labels ← (Text.splitOn isDot folded.flatten).mapM asciiLabel
  some (['.'].intercalate labels)

def readBrackets (s : List Char) : Except UrlError Host :=
  match s.getLast?, readIpv6 s.dropLast with
  | some ']', some groups => .ok (.ipv6 groups)
  | _, _ => .error .invalidIpv6

def readHost (s : List Char) : Except UrlError Host :=
  match s with
  | '[' :: rest => readBrackets rest
  | _ =>
    match asciiName (Text.readOctets (percentDecode s)).toList with
    | Option.none => .error .invalidDomain
    | some [] => .error .emptyHost
    | some name =>
      if endsInNumber name then
        match readIpv4 name with
        | some address => .ok (.ipv4 address)
        | Option.none => .error .invalidIpv4
      else .ok (.name (.ofList name))

def isForbiddenInHost (c : Char) : Bool :=
  c ∈ [Char.ofNat 0, ' ', '#', '/', ':', '<', '>', '?', '@', '[', '\\', ']', '^', '|']

def readOpaqueHost (s : List Char) : Except UrlError Host :=
  match s with
  | '[' :: rest => readBrackets rest
  | _ =>
    if s.any isForbiddenInHost then .error .invalidDomainChar
    else .ok (.name (.ofList (percentEncode isControl s)))

end SiteCache.Url
