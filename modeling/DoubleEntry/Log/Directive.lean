import DoubleEntry.Log.Event
import DoubleEntry.Text.Alphanumeric
import DoubleEntry.Text.Digits
import DoubleEntry.Text.Pattern.Reading

/-!
# Log directives

A directive lets events up to some level pass.  It is written as a level alone or as
`target[span{field=value}]=level`, where every part may be missing: the sources whose
target begins with a word, the spans of a name, and a field with a pattern for its
value.
-/

namespace DoubleEntry

def Level.verbosity : Level → Nat
  | .error => 1
  | .warn => 2
  | .info => 3
  | .debug => 4
  | .trace => 5

/-- A value that is written as a number or a flag has no pattern: no field has such a value. -/
structure ValueFilter where
  text : String
  pattern : Option Text.Pattern
  deriving DecidableEq, Repr

structure FieldFilter where
  name : String
  value : Option ValueFilter
  deriving DecidableEq, Repr

structure Directive where
  target : Option String
  span : Option String
  field : Option FieldFilter
  verbosity : Nat
  deriving DecidableEq, Repr

inductive DirectiveFault where
  | malformed
  | unknownLevel
  | pattern (fault : Text.Pattern.Fault)
  deriving DecidableEq, Repr

def DirectiveFault.message : DirectiveFault → String
  | malformed => "invalid filter directive"
  | unknownLevel =>
    "error parsing level filter: expected one of \"off\", \"error\", \"warn\", "
      ++ "\"info\", \"debug\", \"trace\", or a number 0-5"
  | pattern .malformed => "invalid field filter: error building NFA"
  | pattern .unicodeWord =>
    "invalid field filter: unsupported regex feature for DFAs: cannot build DFAs for regexes "
      ++ "with Unicode word boundaries; switch to ASCII word boundaries, or heuristically enable "
      ++ "Unicode word boundaries or use a different regex engine"

namespace Directive

/-! ## Levels and values -/

def levelNames : List (String × Nat) :=
  [("off", 0), ("error", 1), ("warn", 2), ("info", 3), ("debug", 4), ("trace", 5)]

def lower (s : String) : String := String.ofList (s.toList.map Char.toLower)

def verbosity? (word : String) : Option Nat :=
  match Text.unsigned? word.toList with
  | some n => if n ≤ Level.trace.verbosity then some n else none
  | none => levelNames.lookup (lower word)

def dropSign (cs : List Char) : List Char :=
  match cs with
  | '+' :: rest | '-' :: rest => rest
  | _ => cs

def isDecimal (cs : List Char) : Bool :=
  let whole := cs.takeWhile Char.isDigit
  let (fraction, rest) := match cs.dropWhile Char.isDigit with
    | '.' :: rest => (rest.takeWhile Char.isDigit, rest.dropWhile Char.isDigit)
    | rest => ([], rest)
  let endsWell := match rest with
    | [] => true
    | c :: exponent =>
      let digits := dropSign exponent
      (c = 'e' || c = 'E') && !digits.isEmpty && digits.all Char.isDigit
  !(whole ++ fraction).isEmpty && endsWell

def isNumberOrFlag (s : String) : Bool :=
  s = "true" || s = "false" || isDecimal (dropSign s.toList)
    || lower (String.ofList (dropSign s.toList)) ∈ ["inf", "infinity", "nan"]

def readField (text : String) : Except DirectiveFault FieldFilter :=
  match text.splitOn "=" with
  | [name] => return ⟨name, none⟩
  | name :: value :: _ =>
    if isNumberOrFlag value then return ⟨name, some ⟨value, none⟩⟩
    else
      match Text.Pattern.read value with
      | .ok pattern => return ⟨name, some ⟨value, some pattern⟩⟩
      | .error fault => throw (.pattern fault)
  | [] => throw .malformed

/-! ## Reading -/

/-- What is being read; the numbers are byte offsets of where it began. -/
inductive Place where
  | start
  | word
  | span (first : Nat)
  | field (first : Nat)
  | afterField
  | afterSpan
  | level (first : Nat)
  deriving DecidableEq, Repr

structure Progress where
  place : Place
  directive : Directive
  deriving DecidableEq, Repr

def slice (first stop : Nat) : (offset : Nat) → List Char → List Char
  | _, [] => []
  | offset, c :: cs =>
    let rest := slice first stop (offset + c.utf8Size) cs
    if first ≤ offset && offset < stop then c :: rest else rest

def between (text : List Char) (first stop : Nat) : String :=
  String.ofList (slice first stop 0 text)

def isWordStart (c : Char) : Bool :=
  c = '-' || c = ':' || c = '_' || Text.isAlphanumeric c

def advance (text : List Char) (progress : Progress) (offset : Nat) (c : Char) :
    Except DirectiveFault Progress :=
  let ⟨place, directive⟩ := progress
  match place, c with
  | .start, '[' => return ⟨.span (offset + 1), directive⟩
  | .start, c => if isWordStart c then return ⟨.word, directive⟩ else throw .malformed
  | .word, '=' =>
    return ⟨.level (offset + 1), { directive with target := some (between text 0 offset) }⟩
  | .word, '[' =>
    return ⟨.span (offset + 1), { directive with target := some (between text 0 offset) }⟩
  | .span first, ']' =>
    return ⟨.afterSpan, { directive with span := some (between text first offset) }⟩
  | .span first, '\x7b' =>
    let name := between text first offset
    let span := if name.isEmpty then none else some name
    return ⟨.field (offset + 1), { directive with span }⟩
  | .field first, '\x7d' => do
    let field := between text first offset
    if field.isEmpty then throw .malformed
    return ⟨.afterField, { directive with field := some (← readField field) }⟩
  | .afterField, ']' => return ⟨.afterSpan, directive⟩
  | .afterSpan, '=' => return ⟨.level (offset + 1), directive⟩
  | .afterField, _ | .afterSpan, _ => throw .malformed
  | _, _ => return progress

def advanceAll (text : List Char) : Progress → (offset : Nat) → List Char →
    Except DirectiveFault Progress
  | progress, _, [] => return progress
  | progress, offset, c :: cs => do
    advanceAll text (← advance text progress offset c) (offset + c.utf8Size) cs

def ofWord (word : String) : Directive :=
  match verbosity? word with
  | some verbosity => ⟨none, none, none, verbosity⟩
  | none => ⟨some word, none, none, Level.trace.verbosity⟩

/-- Reads a directive.  Blanks around it are skipped over, but its parts are cut out as if the
blanks were not there, so only a directive without them means what it says.  A missing level means
all events. -/
def read (text : String) : Except DirectiveFault Directive := do
  let cs := text.toList
  let blank : Directive := ⟨none, none, none, Level.trace.verbosity⟩
  let ⟨place, directive⟩ ← advanceAll cs ⟨.start, blank⟩ 0 (Text.trimChars cs)
  match place with
  | .word => return ofWord text
  | .level first =>
    let level := between cs first text.utf8ByteSize
    if level.isEmpty then return directive
    match verbosity? level with
    | some verbosity => return { directive with verbosity }
    | none => throw .unknownLevel
  | .afterSpan => return directive
  | _ => throw .malformed

end Directive

end DoubleEntry
