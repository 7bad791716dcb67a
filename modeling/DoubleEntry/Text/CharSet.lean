import DoubleEntry.Text.Blank

/-!
# Sets of characters

A set is given by ranges of code points, or made of other sets.  Some sets of ASCII
characters have names.
-/

namespace DoubleEntry.Text

inductive CharSet where
  | ranges (list : List (Nat × Nat))
  | union (a b : CharSet)
  | intersection (a b : CharSet)
  | difference (a b : CharSet)
  | symmetricDifference (a b : CharSet)
  | complement (a : CharSet)
  deriving DecidableEq, Repr

namespace CharSet

def empty : CharSet := ranges []

def contains : CharSet → Char → Bool
  | ranges list, c => inRanges list c
  | union a b, c => a.contains c || b.contains c
  | intersection a b, c => a.contains c && b.contains c
  | difference a b, c => a.contains c && !b.contains c
  | symmetricDifference a b, c => a.contains c != b.contains c
  | complement a, c => !a.contains c

def unionOf (sets : List CharSet) : CharSet := sets.foldr union empty

/-! ## Ranges -/

def lowerRange : Nat × Nat := (0x61, 0x7A)

def upperRange : Nat × Nat := (0x41, 0x5A)

def digitRange : Nat × Nat := (0x30, 0x39)

def wordRanges : List (Nat × Nat) := [digitRange, upperRange, (0x5F, 0x5F), lowerRange]

def spaceRanges : List (Nat × Nat) := [(0x09, 0x0D), (0x20, 0x20)]

def namedRanges : List (String × List (Nat × Nat)) :=
  [("alnum", [digitRange, upperRange, lowerRange]), ("alpha", [upperRange, lowerRange]),
    ("ascii", [(0x00, 0x7F)]), ("blank", [(0x09, 0x09), (0x20, 0x20)]),
    ("cntrl", [(0x00, 0x1F), (0x7F, 0x7F)]), ("digit", [digitRange]), ("graph", [(0x21, 0x7E)]),
    ("lower", [lowerRange]), ("print", [(0x20, 0x7E)]),
    ("punct", [(0x21, 0x2F), (0x3A, 0x40), (0x5B, 0x60), (0x7B, 0x7E)]),
    ("space", spaceRanges), ("upper", [upperRange]), ("word", wordRanges),
    ("xdigit", [digitRange, (0x41, 0x46), (0x61, 0x66)])]

def isAsciiRange (range : Nat × Nat) : Bool := range.2 < 0x80

def overlap (a b : Nat × Nat) : List (Nat × Nat) :=
  let first := max a.1 b.1
  let last := min a.2 b.2
  if first ≤ last then [(first, last)] else []

def withOtherCase (range : Nat × Nat) : List (Nat × Nat) :=
  let lowered := (overlap range upperRange).map fun r => (r.1 + 0x20, r.2 + 0x20)
  let raised := (overlap range lowerRange).map fun r => (r.1 - 0x20, r.2 - 0x20)
  range :: lowered ++ raised

end CharSet

end DoubleEntry.Text
