import DoubleEntry.Text.CharSet

/-!
# Text patterns

Patterns are built from characters, assertions, alternatives and repetitions.  Where a
pattern can take more than one part of a text it prefers the one that begins first; of
those, the one of the earlier alternative, and the longer repetition unless it is lazy.
A pattern matches a text if the part that it prefers ends where the text ends.

A search goes over the bytes of a text once.  It holds what can still become a match as
threads in the order of preference, and drops those behind a thread that is complete.
-/

namespace DoubleEntry.Text

/-! ## Places in a text -/

/-- A byte of a text: the character that it belongs to, and its place in the character. -/
structure Byte where
  char : Char
  position : Nat
  deriving DecidableEq, Repr

def bytes (text : List Char) : List Byte :=
  text.flatMap fun c => (List.range c.utf8Size).map fun position => ⟨c, position⟩

def Byte.isInWord (byte : Byte) : Bool := inRanges CharSet.wordRanges byte.char

inductive WordPlace where
  | boundary
  | noBoundary
  | start
  | stop
  deriving DecidableEq, Repr

inductive Assertion where
  | textStart
  | textStop
  | lineStart (withReturns : Bool)
  | lineStop (withReturns : Bool)
  | word (place : WordPlace)
  deriving DecidableEq, Repr

namespace Assertion

def isAt (byte : Option Byte) (c : Char) : Bool := byte.any fun byte => byte.char = c

def holdsAfter (before : Option Byte) : Assertion → Bool
  | textStart => before.isNone
  | lineStart _ => before.isNone || isAt before '\n'
  | _ => false

/-- A carriage return may end a line, but a line does not end between it and a line feed. -/
def holds (before after : Option Byte) : Assertion → Bool
  | lineStart true =>
    holdsAfter before (lineStart true) || (isAt before '\r' && !isAt after '\n')
  | textStop => after.isNone
  | lineStop false => after.isNone || isAt after '\n'
  | lineStop true =>
    after.isNone || isAt after '\r' || (isAt after '\n' && !isAt before '\r')
  | word place =>
    let leaves := before.any Byte.isInWord
    let enters := after.any Byte.isInWord
    match place with
    | .boundary => leaves != enters
    | .noBoundary => leaves == enters
    | .start => !leaves && enters
    | .stop => leaves && !enters
  | other => holdsAfter before other

end Assertion

/-! ## Patterns and threads -/

inductive Pattern where
  | empty
  | oneOf (set : CharSet)
  | assertion (asserted : Assertion)
  | sequence (first second : Pattern)
  | choice (preferred other : Pattern)
  | rounds (body : Pattern) (isLazy : Bool)
  | anyRounds (body : Pattern) (isLazy : Bool)
  deriving DecidableEq, Repr

def Pattern.takesSome : Pattern → Bool
  | empty | assertion _ | anyRounds _ _ => false
  | oneOf _ => true
  | sequence first second => first.takesSome || second.takesSome
  | choice preferred other => preferred.takesSome && other.takesSome
  | rounds body _ => body.takesSome

inductive Goal where
  | pattern (pattern : Pattern)
  | bytes (count : Nat)
  /-- A round of a repetition is over, and another one may begin. -/
  | again (body : Pattern) (isLazy : Bool)
  deriving DecidableEq, Repr

abbrev Thread := List Goal

namespace Thread

def take? (byte : Byte) : Thread → Option Thread
  | .pattern (.oneOf set) :: rest =>
    let further := byte.char.utf8Size - 1
    if byte.position ≠ 0 || !set.contains byte.char then none
    else some (if further = 0 then rest else .bytes further :: rest)
  | .bytes count :: rest => some (if count ≤ 1 then rest else .bytes (count - 1) :: rest)
  | _ => none

def assertion? : Thread → Option Assertion
  | .pattern (.assertion asserted) :: _ => some asserted
  | _ => none

def waits : Thread → Bool
  | [] | .bytes _ :: _ | .pattern (.oneOf _) :: _ | .pattern (.assertion _) :: _ => true
  | _ => false

/-- Puts the threads that a thread leads to without a byte in front of those that were seen, the
most preferred one last; a thread that was seen is left out.  A first round that may take nothing is
told apart from the later ones, so that it can end the repetition.  Going deeper always sees
another thread, so a budget of the number of threads suffices. -/
def follow (holds : Assertion → Bool) : (budget : Nat) → List Thread → Thread → List Thread
  | 0, seen, _ => seen
  | budget + 1, seen, thread =>
    if thread ∈ seen then seen
    else
      let go := follow holds budget
      let seen := thread :: seen
      match thread with
      | .pattern .empty :: rest => go seen rest
      | .pattern (.assertion asserted) :: rest => if holds asserted then go seen rest else seen
      | .pattern (.sequence first second) :: rest =>
        go seen (.pattern first :: .pattern second :: rest)
      | .pattern (.choice preferred other) :: rest =>
        go (go seen (.pattern preferred :: rest)) (.pattern other :: rest)
      | .pattern (.rounds body isLazy) :: rest =>
        go seen (.pattern body :: .again body isLazy :: rest)
      | .pattern (.anyRounds body isLazy) :: rest =>
        if body.takesSome then go seen (.again body isLazy :: rest)
        else
          let once := .pattern (.rounds body isLazy) :: rest
          if isLazy then go (go seen rest) once else go (go seen once) rest
      | .again body isLazy :: rest =>
        let once := .pattern body :: .again body isLazy :: rest
        if isLazy then go (go seen rest) once else go (go seen once) rest
      | _ => seen

end Thread

namespace Pattern

/-- No fewer than the goals that the parts of a pattern lead to. -/
def size : Pattern → Nat
  | empty | oneOf _ | assertion _ => 1
  | sequence a b | choice a b => a.size + b.size + 1
  | rounds body _ => body.size + 2
  | anyRounds body _ => body.size + 3

/-! ## Searching -/

structure Search where
  threads : List Thread
  isOpen : Bool
  deriving DecidableEq, Repr

variable (pattern : Pattern)

def start : Thread := [.pattern pattern]

def reach (holds : Assertion → Bool) (threads : List Thread) : List Thread :=
  ((threads.foldl (Thread.follow holds (pattern.size + 2)) []).reverse).filter Thread.waits

def settle (before after : Option Byte) (threads : List Thread) : List Thread :=
  let isNews (asserted : Assertion) : Bool :=
    asserted.holds before after && !asserted.holdsAfter before
  if threads.any fun thread => thread.assertion?.any isNews then
    pattern.reach (Assertion.holds before after) threads
  else threads

def firstSearch : Search := ⟨pattern.reach (Assertion.holdsAfter none) [pattern.start], true⟩

/-- A complete thread is a match; only what is preferred to it goes on. -/
def advance (before : Option Byte) (byte : Byte) (search : Search) : Search :=
  let threads := pattern.settle before (some byte) search.threads
  let isOpen := search.isOpen && [] ∉ threads
  let moved := (threads.takeWhile fun thread => thread ≠ []).filterMap (Thread.take? byte)
  let fresh := if isOpen then [pattern.start] else []
  ⟨pattern.reach (Assertion.holdsAfter (some byte)) (moved ++ fresh), isOpen⟩

def run : (before : Option Byte) → Search → List Byte → Bool
  | before, search, [] => [] ∈ pattern.settle before none search.threads
  | before, search, byte :: bytes => run (some byte) (pattern.advance before byte search) bytes

def isMatch (text : String) : Bool := pattern.run none pattern.firstSearch (bytes text.toList)

end Pattern

end DoubleEntry.Text
