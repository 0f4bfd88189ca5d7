set_option autoImplicit false

namespace SiteCache.Text

def padEnd (width : Nat) (s : String) : String :=
  .ofList (s.toList ++ List.replicate (width - s.length) ' ')

def padStart (width : Nat) (s : String) : String :=
  .ofList (List.replicate (width - s.length) ' ' ++ s.toList)

end SiteCache.Text
