/-!
# Files

A path leads from the working directory through directories to a file.  Its parts stand
between slashes; an empty part and a dot stay where they are, and two dots lead to the
directory above.
-/

namespace DoubleEntry

/-- A place as the parts that lead to it, last part first. -/
abbrev Place := List String

namespace Place

def go (place : Place) (part : String) : Place :=
  if part = "" || part = "." then place
  else if part = ".." then
    match place with
    | [] | ".." :: _ => ".." :: place
    | _ :: above => above
  else part :: place

def trail (place : Place) : List String → List Place
  | [] => []
  | part :: parts => place.go part :: trail (place.go part) parts

end Place

/-! ## Paths -/

namespace Path

def parts (path : String) : List String := path.splitOn "/"

def namesFile (path : String) : Bool :=
  match (parts path).getLast? with
  | some part => part ≠ "" && part ≠ "."
  | none => false

/-- The last part that leads somewhere, and the parts before it, last part first. -/
def lastName? (path : String) : Option (String × List String) :=
  match (parts path).reverse.dropWhile fun part => part = "" || part = "." with
  | name :: before => if name = ".." then none else some (name, before)
  | [] => none

/-- A name before its last dot and the extension behind it.  A dot at the start of a name begins
no extension. -/
def splitName (name : String) : String × Option String :=
  match (name.splitOn ".").reverse with
  | extension :: second :: before =>
    let stem := ".".intercalate (second :: before).reverse
    if stem.isEmpty then (name, none) else (stem, some extension)
  | _ => (name, none)

def extension? (path : String) : Option String :=
  (lastName? path).bind fun (name, _) => (splitName name).2

def withExtension? (extension path : String) : Option String :=
  (lastName? path).map fun (name, before) =>
    "/".intercalate (((splitName name).1 ++ "." ++ extension) :: before).reverse

end Path

/-! ## Files in memory -/

structure Files where
  texts : List (Place × String)
  directories : List Place
  deriving DecidableEq, Repr

namespace Files

def empty : Files := ⟨[], []⟩

def write (files : Files) (path text : String) : Files :=
  let trail := Place.trail [] (Path.parts path)
  ⟨(trail.getLastD [], text) :: files.texts, trail.dropLast ++ files.directories⟩

/-- The working directory and those above it are always there. -/
def hasDirectory (files : Files) (place : Place) : Bool :=
  place.all (fun part => part = "..") || place ∈ files.directories

def text? (files : Files) (path : String) : Option String := do
  let trail := Place.trail [] (Path.parts path)
  guard (Path.namesFile path && trail.dropLast.all files.hasDirectory)
  files.texts.lookup (trail.getLastD [])

end Files

end DoubleEntry
