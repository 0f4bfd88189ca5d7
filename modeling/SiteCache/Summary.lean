import SiteCache.Text.Decimal

set_option autoImplicit false

namespace SiteCache

structure Summary where
  inserted : Nat
  updated : Nat
  deleted : Nat
  deriving DecidableEq, Repr

namespace Summary

def zero : Summary := ⟨0, 0, 0⟩

def isNoop (s : Summary) : Bool := s.inserted = 0 && s.updated = 0 && s.deleted = 0

def text (s : Summary) : String :=
  Text.natText s.inserted ++ " inserted, " ++ Text.natText s.updated ++ " updated, " ++
    Text.natText s.deleted ++ " deleted"

end Summary

end SiteCache
