set_option autoImplicit false

namespace SiteCache.Text

def splitOn (separates : Char → Bool) : List Char → List (List Char)
  | [] => [[]]
  | c :: rest =>
    if separates c then [] :: splitOn separates rest
    else
      match splitOn separates rest with
      | [] => [[c]]
      | part :: parts => (c :: part) :: parts

def splitFirst? (separates : Char → Bool) : List Char → Option (List Char × List Char)
  | [] => none
  | c :: rest =>
    if separates c then some ([], rest)
    else (splitFirst? separates rest).map fun (before, after) => (c :: before, after)

def splitLast? (separates : Char → Bool) (s : List Char) : Option (List Char × List Char) :=
  (splitFirst? separates s.reverse).map fun (after, before) => (before.reverse, after.reverse)

end SiteCache.Text
