import DoubleEntry.Json.Value
import DoubleEntry.Text.Digits

/-!
# Paths into JSON values

A path leads through named members and numbered items to a place in a value.  What
is put there is merged with what is there already: an object goes into an object
member by member, and anything else replaces the old value.
-/

namespace DoubleEntry

namespace Json

/-! ## Merging -/

def membersOf : Json → List (String × Json)
  | object members => members
  | _ => []

def itemsOf : Json → List Json
  | list items => items
  | _ => []

def putMember (name : String) (value : Json) : List (String × Json) → List (String × Json)
  | [] => [(name, value)]
  | (other, old) :: members =>
    if other = name then (name, value) :: members else (other, old) :: putMember name value members

mutual

/-- The members of an object go into `under`, which becomes an object if it is none. -/
def merge (under : Json) : Json → Json
  | object members => object (mergeMembers (membersOf under) members)
  | value => value

def mergeMembers (under : List (String × Json)) : List (String × Json) → List (String × Json)
  | [] => under
  | (name, value) :: members =>
    let merged := merge (((object under).member? name).getD null) value
    mergeMembers (putMember name merged under) members

end

/-! ## Paths -/

/-- A step from a value to a part of it.  A negative number counts items from the end. -/
inductive Step where
  | member (name : String)
  | item (position : Int)
  deriving DecidableEq, Repr

abbrev Path := List Step

/-- The items with nulls put in until there is one at `position`, and where it is then.  Too large
a number lengthens the list at its end and too small a one at its front. -/
def reach (items : List Json) (position : Int) : List Json × Nat :=
  match position with
  | .ofNat n => (items ++ List.replicate (n + 1 - items.length) null, n)
  | .negSucc n =>
    (List.replicate (n + 1 - items.length) null ++ items, items.length - (n + 1))

/-- Merges `value` with what is at the end of a path.  On the way whatever is no object or no list
where the step needs one becomes an empty one. -/
def put (under : Json) (path : Path) (value : Json) : Json :=
  match path with
  | [] => merge under value
  | .member name :: path =>
    let old := (under.member? name).getD null
    object (putMember name (old.put path value) (membersOf under))
  | .item position :: path =>
    let (items, position) := reach (itemsOf under) position
    list (items.set position ((items[position]?.getD null).put path value))

/-! ## Written paths -/

namespace Path

def isNameChar (c : Char) : Bool := c.isAlphanum || c = '_' || c = '-'

def skipSpace (cs : List Char) : List Char := cs.dropWhile fun c => c = ' ' || c = '\t'

def readPosition? (cs : List Char) : Option (Int × List Char) := do
  let (negative, rest) := match skipSpace cs with
    | '-' :: rest => (true, rest)
    | rest => (false, rest)
  let digits := rest.takeWhile Char.isDigit
  guard !digits.isEmpty
  let ']' :: rest := skipSpace (rest.dropWhile Char.isDigit) | none
  let size : Int := Text.numberOf digits
  let position := if negative then -size else size
  guard (-0x8000000000000000 ≤ position && position < 0x8000000000000000)
  return (position, rest)

def readName? (cs : List Char) : Option (String × List Char) := do
  let name := cs.takeWhile isNameChar
  guard !name.isEmpty
  return (String.ofList name, cs.dropWhile isNameChar)

/-- Each step takes at least one character, so as many steps as characters suffice. -/
def readSteps? : (budget : Nat) → List Char → Option Path
  | _, [] => some []
  | 0, _ => none
  | budget + 1, '.' :: cs => do
    let (name, rest) ← readName? cs
    return .member name :: (← readSteps? budget rest)
  | budget + 1, '[' :: cs => do
    let (position, rest) ← readPosition? cs
    return .item position :: (← readSteps? budget rest)
  | _, _ => none

def ofString? (text : String) : Option Path := do
  let (name, rest) ← readName? text.toList
  return .member name :: (← readSteps? rest.length rest)

end Path

end Json

end DoubleEntry
