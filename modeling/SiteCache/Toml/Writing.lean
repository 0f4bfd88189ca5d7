import SiteCache.Text.Decimal
import SiteCache.Toml.QuotedStyle

set_option autoImplicit false

namespace SiteCache.Toml

inductive Setting where
  | text (s : String)
  | number (n : Int)
  | numbers (ns : List Int)
  deriving DecidableEq, Repr

structure Section where
  name : String
  settings : List (String × Setting)
  deriving DecidableEq, Repr

def writeNumbers : List Int → List Char
  | [] => ['[', ']']
  | [n] => '[' :: Text.signedDigits n ++ [']']
  | ns =>
    let line (n : Int) := "    ".toList ++ Text.signedDigits n ++ [',', '\n']
    ['[', '\n'] ++ ns.flatMap line ++ [']']

def Setting.write : Setting → List Char
  | .text s => writeString s.toList
  | .number n => Text.signedDigits n
  | .numbers ns => writeNumbers ns

def Section.write (s : Section) : List Char :=
  '[' :: s.name.toList ++ [']', '\n'] ++
    s.settings.flatMap fun (key, setting) => key.toList ++ " = ".toList ++ setting.write ++ ['\n']

def write (sections : List Section) : String :=
  .ofList (List.intercalate ['\n'] (sections.map Section.write))

end SiteCache.Toml
