import DoubleEntry.Text.Digits

/-!
# Readers

A reader takes characters off the front of a text and gives a value, or fails.
-/

namespace DoubleEntry.Text

abbrev Reader := StateT (List Char) Option

namespace Reader

def peek? : Reader (Option Char) := return (← get).head?

def next : Reader Char := do
  match ← get with
  | c :: rest => set rest; return c
  | [] => failure

def expect (c : Char) : Reader Unit := do
  guard ((← next) = c)

def take (c : Char) : Reader Bool := do
  match ← get with
  | d :: rest => if c = d then set rest; return true else return false
  | [] => return false

def takeWord (word : String) : Reader Bool := do
  let rest ← get
  if word.toList.isPrefixOf rest then
    set (rest.drop word.length)
    return true
  else return false

def hexDigit : Reader Nat := do
  match hexValue? (← next) with
  | some value => return value
  | none => failure

end Reader

end DoubleEntry.Text
