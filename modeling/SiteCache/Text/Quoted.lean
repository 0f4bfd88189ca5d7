import SiteCache.Text.LowercaseTable
import SiteCache.Text.PrintableTable

set_option autoImplicit false

namespace SiteCache.Text

def hexDigits (n : Nat) : List Char := Nat.toDigits 16 n

def isNumbered (c : Char) : Bool :=
  c.toNat < 0x20 || inRanges numberedRanges c.toNat

def quotedChar (c : Char) : List Char :=
  if c = '"' then ['\\', '"']
  else if c = '\\' then ['\\', '\\']
  else if c = '\n' then ['\\', 'n']
  else if c = '\r' then ['\\', 'r']
  else if c = '\t' then ['\\', 't']
  else if c.toNat = 0 then ['\\', '0']
  else if isNumbered c then "\\u\x7b".toList ++ hexDigits c.toNat ++ ['\x7d']
  else [c]

def quoted (s : String) : String :=
  .ofList ('"' :: s.toList.flatMap quotedChar ++ ['"'])

end SiteCache.Text
