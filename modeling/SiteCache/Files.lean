import SiteCache.Text.Split

set_option autoImplicit false

namespace SiteCache

inductive FileError where
  | notFound
  | alreadyExists
  | notDirectory
  | isDirectory
  deriving DecidableEq, Repr

def FileError.message : FileError → String
  | .notFound => "No such file or directory (os error 2)"
  | .alreadyExists => "File exists (os error 17)"
  | .notDirectory => "Not a directory (os error 20)"
  | .isDirectory => "Is a directory (os error 21)"

inductive FileEntry (α : Type) where
  | directory
  | file (content : α)

namespace Path

def isSeparator (c : Char) : Bool := c = '/'

def follow (reached : List String) (part : String) : List String :=
  if part = "" ∨ part = "." then reached
  else if part = ".." then reached.dropLast
  else reached ++ [part]

def names (path : String) : List String :=
  let parts := (Text.splitOn isSeparator path.toList).map String.ofList
  parts.foldl follow (if path.toList.head? = some '/' then ["/"] else [])

def dropSeparators (s : List Char) : List Char := (s.reverse.dropWhile isSeparator).reverse

def parent? (path : String) : Option String :=
  let s := path.toList
  match dropSeparators s with
  | [] => none
  | trimmed =>
    match Text.splitLast? isSeparator trimmed with
    | none => some ""
    | some (front, _) =>
      match dropSeparators front with
      | [] => some "/"
      | front => some (.ofList front)

def ofNames : List String → String
  | [] => "."
  | "/" :: names => "/" ++ "/".intercalate names
  | names => "/".intercalate names

def join (directory name : String) : String := directory ++ "/" ++ name

end Path

structure Files (α : Type) where
  entries : List (List String × FileEntry α)

namespace Files

variable {α : Type}

def empty : Files α := ⟨[]⟩

def entry? (files : Files α) (names : List String) : Option (FileEntry α) :=
  if names = [] ∨ names = ["/"] then some .directory
  else (files.entries.find? fun e => e.1 = names).map (·.2)

def waysTo (names : List String) : List (List String) :=
  (List.range names.length).map fun n => names.take n

/-- Why a place cannot be reached, if what leads to it is missing or no directory. -/
def obstacle? (files : Files α) (names : List String) : Option FileError :=
  (waysTo names).findSome? fun way =>
    match files.entry? way with
    | some .directory => none
    | some (.file _) => some .notDirectory
    | none => some .notFound

def find (files : Files α) (path : String) : Except FileError (FileEntry α) :=
  let names := Path.names path
  if path = "" then .error .notFound
  else
    match files.obstacle? names, files.entry? names with
    | some e, _ => .error e
    | none, none => .error .notFound
    | none, some entry => .ok entry

def contains (files : Files α) (path : String) : Bool := (files.find path).toBool

def read (files : Files α) (path : String) : Except FileError α :=
  match files.find path with
  | .ok (.file content) => .ok content
  | .ok .directory => .error .isDirectory
  | .error e => .error e

def put (files : Files α) (names : List String) (entry : FileEntry α) : Files α :=
  ⟨(names, entry) :: files.entries.filter fun e => e.1 ≠ names⟩

def write (files : Files α) (path : String) (content : α) : Except FileError (Files α) :=
  match files.find path with
  | .ok .directory => .error .isDirectory
  | .ok (.file _) => .ok (files.put (Path.names path) (.file content))
  | .error .notFound =>
    if path = "" ∨ (files.obstacle? (Path.names path)).isSome then .error .notFound
    else .ok (files.put (Path.names path) (.file content))
  | .error e => .error e

def createDirectories (files : Files α) (path : String) : Except FileError (Files α) :=
  let names := Path.names path
  (waysTo names ++ [names]).foldlM (fun files way =>
    match files.entry? way with
    | some .directory => .ok files
    | some (.file _) => .error (if way = names then .alreadyExists else .notDirectory)
    | none => .ok (files.put way .directory)) files

def createParent (files : Files α) (path : String) : Except FileError (Files α) :=
  match Path.parent? path with
  | some parent => files.createDirectories parent
  | none => .ok files

end Files

end SiteCache
