import DoubleEntry.Text.Pattern
import DoubleEntry.Text.Pattern.Options
import DoubleEntry.Text.Reader

/-!
# Sets in patterns

A set of characters stands in brackets, as characters, ranges, named classes and other
sets.  Two things are refused: case and the named classes behind a backslash have no
meaning for all of Unicode, so they need the ASCII reading, and in the ASCII reading no
set may hold other characters.
-/

namespace DoubleEntry.Text.Pattern

structure Reading where
  options : Options
  names : List String
  asksForUnicodeWords : Bool
  deriving DecidableEq, Repr

abbrev PatternReader := StateT Reading Text.Reader

structure SetPart where
  set : CharSet
  depth : Nat
  deriving DecidableEq, Repr

def SetPart.unionOf : List SetPart → SetPart
  | [] => ⟨.empty, 0⟩
  | [part] => part
  | parts => ⟨.unionOf (parts.map SetPart.set), (parts.map SetPart.depth).foldl max 0 + 1⟩

namespace Reader

open Text.Reader

variable {α : Type}

def orFail : Option α → PatternReader α
  | some value => return value
  | none => failure

def remaining : PatternReader (List Char) := (get : Text.Reader (List Char))

def skip (count : Nat) : PatternReader Unit :=
  (modify (·.drop count) : Text.Reader Unit)

/-! ## Blanks -/

def dropIgnored : (inComment : Bool) → List Char → List Char
  | _, [] => []
  | true, c :: cs => dropIgnored (c ≠ '\n') cs
  | false, c :: cs =>
    if isBlank c then dropIgnored false cs
    else if c = '#' then dropIgnored true cs
    else c :: cs

def skipIgnored : PatternReader Unit := do
  if (← get).options.ignoresBlanks then
    (modify (dropIgnored false) : Text.Reader Unit)

def visible? (options : Options) (cs : List Char) : Option Char :=
  if options.ignoresBlanks then
    match cs.dropWhile isBlank with
    | '#' :: rest => (rest.dropWhile isBlank).head?
    | rest => rest.head?
  else cs.head?

/-! ## Characters behind a backslash -/

inductive Escape where
  | char (c : Char)
  | set (set : CharSet)
  | assertion (asserted : Assertion)

def hexNumber : (digits : Nat) → (value : Nat) → PatternReader Nat
  | 0, value => return value
  | digits + 1, value => do
    skipIgnored
    hexNumber digits (value * 16 + (← hexDigit))

/-- In the ASCII reading two digits stand for a byte. -/
def hexChar (digits : Nat) : PatternReader Escape := do
  let value ← hexNumber digits 0
  guard (value < 0xD800 || (0xE000 ≤ value && value < 0x110000))
  guard ((← get).options.isUnicode || digits ≠ 2 || value < 0x80)
  return .char (Char.ofNat value)

def namedSet (ranges : List (Nat × Nat)) : PatternReader Escape := do
  guard (!(← get).options.isUnicode)
  return .set (.ranges ranges)

def wordAssertion (place : WordPlace) : PatternReader Escape := do
  if (← get).options.isUnicode then
    modify fun reading => { reading with asksForUnicodeWords := true }
  return .assertion (.word place)

def escape : PatternReader Escape := do
  match ← next with
  | 'x' => hexChar 2
  | 'u' => hexChar 4
  | 'U' => hexChar 8
  | 'd' => namedSet [CharSet.digitRange]
  | 's' => namedSet CharSet.spaceRanges
  | 'w' => namedSet CharSet.wordRanges
  | 'a' => return .char '\x07'
  | 'f' => return .char '\x0c'
  | 'n' => return .char '\n'
  | 'r' => return .char '\r'
  | 't' => return .char '\t'
  | 'v' => return .char '\x0b'
  | 'A' => return .assertion .textStart
  | 'z' => return .assertion .textStop
  | 'b' => wordAssertion .boundary
  | 'B' => wordAssertion .noBoundary
  | '<' => wordAssertion .start
  | '>' => wordAssertion .stop
  | c =>
    guard (c.toNat < 0x80 && !c.isAlphanum)
    return .char c

/-! ## Sets in brackets -/

def setOfRanges (ranges : List (Nat × Nat)) : PatternReader SetPart := do
  let options := (← get).options
  guard (options.isUnicode || ranges.all CharSet.isAsciiRange)
  return ⟨.ranges (← orFail (options.cased? ranges)), 0⟩

def setOfChar (c : Char) : PatternReader SetPart := setOfRanges [(c.toNat, c.toNat)]

def complementIf (isNegated : Bool) (set : CharSet) : PatternReader CharSet := do
  if isNegated then
    guard (← get).options.isUnicode
    return .complement set
  else return set

def member : PatternReader Escape := do
  match ← next with
  | '\\' => escape
  | c => return .char c

/-- A minus sign makes a range unless it is the last character or one of two. -/
def memberOrRange : PatternReader SetPart := do
  let first ← member
  skipIgnored
  let options := (← get).options
  let isRange : Bool := match ← remaining with
    | '-' :: rest => visible? options rest ∉ [some ']', some '-']
    | _ => false
  if isRange then
    skip 1
    skipIgnored
    let .char first := first | failure
    let .char last ← member | failure
    guard (first ≤ last)
    setOfRanges [(first.toNat, last.toNat)]
  else
    match first with
    | .char c => setOfChar c
    | .set set => return ⟨set, 0⟩
    | .assertion _ => failure

def namedClass? (cs : List Char) : Option (Bool × List (Nat × Nat) × List Char) := do
  let isNegated := cs.head? = some '^'
  let cs := if isNegated then cs.drop 1 else cs
  let name := cs.takeWhile fun c => c ≠ ':'
  let ':' :: ']' :: rest := cs.drop name.length | none
  return (isNegated, ← CharSet.namedRanges.lookup (String.ofList name), rest)

def namedClass : PatternReader (Option SetPart) := do
  match ← remaining with
  | '[' :: ':' :: cs =>
    match namedClass? cs with
    | some (isNegated, ranges, rest) =>
      (set rest : Text.Reader Unit)
      let part ← setOfRanges ranges
      return some { part with set := ← complementIf isNegated part.set }
    | none => return none
  | _ => return none

structure Pending where
  first : SetPart
  operation : CharSet → CharSet → CharSet

def Pending.apply (pending : Option Pending) (part : SetPart) : SetPart :=
  match pending with
  | some ⟨first, operation⟩ => ⟨operation first.set part.set, max first.depth part.depth + 1⟩
  | none => part

def setOperation : PatternReader (Option (CharSet → CharSet → CharSet)) := do
  if ← takeWord "&&" then return some .intersection
  else if ← takeWord "--" then return some .difference
  else if ← takeWord "~~" then return some .symmetricDifference
  else return none

def leadingMinuses : (budget : Nat) → PatternReader (List SetPart)
  | 0 => failure
  | budget + 1 => do
    if ← take '-' then
      skipIgnored
      return (← setOfChar '-') :: (← leadingMinuses budget)
    else return []

mutual

/-- A set behind its opening bracket.  A closing bracket right at its start is a member. -/
def setBehindBracket : (budget : Nat) → PatternReader SetPart
  | 0 => failure
  | budget + 1 => do
    skipIgnored
    let isNegated ← take '^'
    if isNegated then skipIgnored
    let minuses ← leadingMinuses budget
    let hasBracket ← if minuses.isEmpty then (take ']' : Text.Reader Bool) else pure false
    let first ← if hasBracket then pure [← setOfChar ']'] else pure minuses
    let part ← setMembers budget none first
    return ⟨← complementIf isNegated part.set, part.depth + 1⟩

/-- The members up to the closing bracket.  Operations take what stands on their two sides, the
first one first. -/
def setMembers : (budget : Nat) → Option Pending → List SetPart → PatternReader SetPart
  | 0, _, _ => failure
  | budget + 1, pending, members => do
    skipIgnored
    let whole := Pending.apply pending (SetPart.unionOf members)
    if ← take ']' then return whole
    else if let some operation ← setOperation then setMembers budget (some ⟨whole, operation⟩) []
    else if let some part ← namedClass then setMembers budget pending (part :: members)
    else if ← take '[' then
      setMembers budget pending ((← setBehindBracket budget) :: members)
    else setMembers budget pending ((← memberOrRange) :: members)

end

end Reader

end DoubleEntry.Text.Pattern
