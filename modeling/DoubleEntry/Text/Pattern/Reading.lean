import DoubleEntry.Text.Alphanumeric
import DoubleEntry.Text.Pattern.Sets

/-!
# Reading patterns

A pattern is written as rows of parts between bars.  Groups are parts, and they can set
options for what follows in them.  A row of parts, a choice, a group, a repetition and a
set are one level deeper than what they are made of, and a pattern has at most 250
levels.
-/

namespace DoubleEntry.Text.Pattern

inductive Fault where
  | malformed
  /-- Words of Unicode have no boundaries that a search could tell from bytes. -/
  | unicodeWord
  deriving DecidableEq, Repr

structure Part where
  pattern : Pattern
  depth : Nat
  isRepeatable : Bool
  deriving DecidableEq, Repr

namespace Part

def ofPattern (pattern : Pattern) : Part := ⟨pattern, 0, true⟩

def maxDepth (parts : List Part) : Nat := (parts.map Part.depth).foldl max 0

def sequence : List Part → Part
  | [] => ofPattern .empty
  | [part] => part
  | parts => ⟨(parts.map Part.pattern).foldr .sequence .empty, maxDepth parts + 1, true⟩

def choiceOf : Pattern → List Pattern → Pattern
  | pattern, [] => pattern
  | pattern, other :: others => .choice pattern (choiceOf other others)

def choice : List Part → Part
  | [] => ofPattern .empty
  | [part] => part
  | part :: parts =>
    ⟨choiceOf part.pattern (parts.map Part.pattern), maxDepth (part :: parts) + 1, true⟩

/-- Marked with `?`, a part may be missing, with `*` it may also stand more than once, and with `+`
it stands once or more. -/
def repeated (mark : Char) (isLazy : Bool) (part : Part) : Part :=
  let pattern := match mark with
    | '?' =>
      if isLazy then .choice .empty part.pattern else .choice part.pattern .empty
    | '+' => .rounds part.pattern isLazy
    | _ => .anyRounds part.pattern isLazy
  ⟨pattern, part.depth + 1, true⟩

end Part

namespace Reader

open Text.Reader

def literal (c : Char) : PatternReader Part := do
  let ranges ← orFail ((← get).options.cased? [(c.toNat, c.toNat)])
  return .ofPattern (.oneOf (.ranges ranges))

def dot : PatternReader Part := do
  let options := (← get).options
  guard options.isUnicode
  let excluded :=
    if options.dotTakesAll then []
    else if options.linesEndWithReturns then ['\n', '\r']
    else ['\n']
  let ranges := excluded.map fun c => (c.toNat, c.toNat)
  return .ofPattern (.oneOf (.complement (.ranges ranges)))

def assertion (inText : Assertion) (inLine : Bool → Assertion) : PatternReader Part := do
  let options := (← get).options
  return .ofPattern (.assertion
    (if options.hasLines then inLine options.linesEndWithReturns else inText))

def escaped : PatternReader Part := do
  match ← escape with
  | .char c => literal c
  | .set set => return .ofPattern (.oneOf set)
  | .assertion asserted => return .ofPattern (.assertion asserted)

/-! ## Groups -/

def isNameChar (c : Char) : Bool := isAlphanumeric c || c ∈ ['_', '.', '[', ']']

def groupName : PatternReader Unit := do
  let name := (← remaining).takeWhile fun c => c ≠ '>'
  skip name.length
  expect '>'
  let first :: _ := name | failure
  guard ((isAlphabetic first || first = '_') && name.all isNameChar)
  let names := (← get).names
  guard (String.ofList name ∉ names)
  modify fun reading => { reading with names := String.ofList name :: names }

def groupOptions : PatternReader Bool := do
  let letters := (← remaining).takeWhile fun c => c ∉ [':', ')']
  skip letters.length
  let hasContents := (← next) = ':'
  guard (hasContents || !letters.isEmpty)
  let options ← orFail ((← get).options.switchAll? letters)
  modify fun reading => { reading with options }
  return hasContents

/-- Reads what follows an opening parenthesis up to the contents of the group.  Options alone are
no group: then there are no contents. -/
def groupStart : PatternReader Bool := do
  skipIgnored
  if ← takeWord "?P<" then
    groupName
    return true
  else if ← takeWord "?<" then
    groupName
    return true
  else if ← take '?' then groupOptions
  else return true

mutual

def alternatives : (budget : Nat) → PatternReader (List Part)
  | 0 => failure
  | budget + 1 => do
    let first ← row budget []
    if ← take '|' then return first :: (← alternatives budget)
    else return [first]

/-- Parts one after another; `read` holds those before them, the last one first. -/
def row : (budget : Nat) → (read : List Part) → PatternReader Part
  | 0, _ => failure
  | budget + 1, read => do
    skipIgnored
    match ← peek? with
    | none | some '|' | some ')' => return Part.sequence read.reverse
    | some c =>
      if c ∈ ['?', '*', '+'] then
        let last :: earlier := read | failure
        guard last.isRepeatable
        skip 1
        let isLazy := (← take '?') != (← get).options.prefersFewer
        row budget (last.repeated c isLazy :: earlier)
      else row budget ((← part budget) :: read)

/-- A count in braces is never complete: patterns stand in braces, which a closing one ends. -/
def part : (budget : Nat) → PatternReader Part
  | 0 => failure
  | budget + 1 => do
    match ← next with
    | '(' => group budget
    | '[' =>
      let part ← setBehindBracket budget
      return ⟨.oneOf part.set, part.depth, true⟩
    | '.' => dot
    | '^' => assertion .textStart .lineStart
    | '$' => assertion .textStop .lineStop
    | '\\' => escaped
    | '\x7b' => failure
    | c => literal c

def group : (budget : Nat) → PatternReader Part
  | 0 => failure
  | budget + 1 => do
    let options := (← get).options
    if ← groupStart then
      let contents := Part.choice (← alternatives budget)
      expect ')'
      modify fun reading => { reading with options }
      return { contents with depth := contents.depth + 1, isRepeatable := true }
    else return ⟨.empty, 0, false⟩

end

end Reader

def maxDepth : Nat := 250

/-- Reads a pattern.  Four calls at most are made for each character. -/
def read (text : String) : Except Fault Pattern :=
  let cs := text.toList
  match ((Reader.alternatives (4 * cs.length + 4)).run ⟨.standard, [], false⟩).run cs with
  | some ((parts, reading), []) =>
    let part := Part.choice parts
    if maxDepth < part.depth then .error .malformed
    else if reading.asksForUnicodeWords then .error .unicodeWord
    else .ok part.pattern
  | _ => .error .malformed

end DoubleEntry.Text.Pattern
