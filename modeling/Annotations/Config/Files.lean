import Annotations.Text.Reader

/-!
A tree of files below one folder, and paths that start there.
-/
namespace Annotations

inductive FileContent where
  | text (content : String)
  /-- Content that is no text. -/
  | binary
  | folder
deriving DecidableEq, Repr, Inhabited

/-- Files by the names on the way to them. Folders on the way need not be listed. -/
abbrev Files := List (List String × FileContent)

namespace Files

/-- The parts of a path between its slashes. -/
def parts (path : String) : List String := (path.toList.splitOn '/').map String.ofList

/-- What stands at a place. -/
def content? (files : Files) (place : List String) : Option FileContent :=
  match files.lookup place with
  | some content => some content
  | none =>
    if place.isEmpty || files.any (place.isPrefixOf ·.1) then some .folder else none

/-- Where a path leads: to a place below the folder, or to some folder above it. -/
inductive Location where
  | below (place : List String)
  | above
deriving DecidableEq, Repr

def at? (files : Files) : Location → Option FileContent
  | .below place => files.content? place
  | .above => some .folder

/-- Goes on from somewhere, which has to be a folder wherever anything follows. What else the folders above
hold is not known. -/
def walk (files : Files) : Location → List String → Option Location
  | location, [] => some location
  | location, part :: rest =>
    if files.at? location != some .folder then none
    else if part == "" || part == "." then files.walk location rest
    else match location with
      | .below place =>
        if part != ".." then files.walk (.below (place ++ [part])) rest
        else if place.isEmpty then files.walk .above rest
        else files.walk (.below place.dropLast) rest
      | .above => if part == ".." then files.walk .above rest else none

/-- What stands at a path. A slash in front leads to the topmost folder. -/
def find? (files : Files) (path : String) : Option FileContent :=
  let location := match parts path with
    | [""] => none
    | "" :: names => files.walk .above names
    | names => files.walk (.below []) names
  location.bind files.at?

/-- Goes one part further on a path that is made on the way: a folder left again stays. -/
def step (made : List String × Files) (part : String) : List String × Files :=
  let (place, files) := made
  if part == "" || part == "." then made
  else if part == ".." then (place.dropLast, files ++ [(place, .folder)])
  else (place ++ [part], files)

/-- Puts a file at a relative path, in place of what was there. -/
def lay (files : Files) (path : String) (content : FileContent) : Files :=
  let (place, files) := (parts path).foldl step ([], files)
  (place, content) :: files.filter (·.1 != place)

/-- Files as they are laid one after another by relative paths. -/
def ofList (listed : List (String × FileContent)) : Files :=
  listed.foldl (fun files entry => files.lay entry.1 entry.2) []

/-- What follows the last dot of a file name, unless the dot is in front of it. -/
def extension? (path : String) : Option String :=
  let named := (parts path).filter fun part => part != "" && part != "."
  let name := (named.getLast?.getD "").toList
  if name == ['.', '.'] then none
  else
    let stem := (name.reverse.dropWhile (· != '.')).drop 1
    if stem.isEmpty then none else some (String.ofList (name.drop (stem.length + 1)))

end Files
end Annotations
