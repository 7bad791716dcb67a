import DoubleEntry.Json.Value
import DoubleEntry.Text.Digits
import DoubleEntry.Text.Reader

/-!
# Reading JSON

The whole text is one value with blanks around it, in which lists and objects stand in
each other no more than 127 deep.  Every call that reads a value, an item or a member
spends one unit of a budget; each of them begins with a character of its own, so a
budget of one more than the length never runs out.
-/

namespace DoubleEntry.Json

open Text (Reader)
open Text.Reader

namespace Reader

def isSpace (c : Char) : Bool := c = ' ' || c = '\t' || c = '\n' || c = '\r'

def skipSpace : Reader Unit := modify (·.dropWhile isSpace)

def word (letters : String) (value : Json) : Reader Json := do
  guard (← takeWord letters)
  return value

/-! ## Numbers -/

def takeDigits : Reader (List Char) := do
  let rest ← get
  set (rest.dropWhile Char.isDigit)
  return rest.takeWhile Char.isDigit

def someDigits : Reader (List Char) := do
  let digits ← takeDigits
  guard (!digits.isEmpty)
  return digits

def wholePart : Reader (List Char) := do
  let digits ← someDigits
  guard (digits.length = 1 || digits.head? != some '0')
  return digits

def fractionPart : Reader (Option (List Char)) := do
  match ← get with
  | '.' :: rest => set rest; return some (← someDigits)
  | _ => return none

def exponentSign : Reader Bool := do
  match ← get with
  | '+' :: rest => set rest; return false
  | '-' :: rest => set rest; return true
  | _ => return false

def exponentPart : Reader (Option Int) := do
  let start ← get
  match start with
  | c :: rest =>
    if c = 'e' || c = 'E' then
      set rest
      let negative ← exponentSign
      let size : Int := Text.numberOf (← someDigits)
      return some (if negative then -size else size)
    else return none
  | [] => return none

def sign : Reader Bool := do
  match ← get with
  | '-' :: rest => set rest; return true
  | _ => return false

/-- Appends digits to a number while it stays below `2 ^ 64`; the digits left over come second. -/
def appendDigits : Nat → List Char → Nat × List Char
  | n, [] => (n, [])
  | n, c :: digits =>
    let longer := n * 10 + Text.digitValue c
    if longer < 0x10000000000000000 then appendDigits longer digits else (n, c :: digits)

def powerOfTen (e : Nat) : Float := Float.ofScientific 1 false e

/-- The number `size * 10 ^ exponent`, rounded after one multiplication or after each division.
A number that is too large has no value. -/
def scaled? (size : Float) (exponent : Int) : Option Float :=
  match exponent with
  | .ofNat e =>
    if e ≤ 308 then
      let product := size * powerOfTen e
      if product.isFinite then some product else none
    else if size == 0 then some size else none
  | .negSucc e =>
    let e := e + 1
    if e ≤ 308 then some (size / powerOfTen e)
    else if e ≤ 616 then some (size / powerOfTen 308 / powerOfTen (e - 308))
    else some 0

/-- Of a long row of digits only the first ones count; the others before the point keep their
places and the others behind it are left out. -/
def float? (negative : Bool) (whole fraction : List Char) (exponent : Int) : Option Float := do
  let (significand, wholeLeft) := appendDigits 0 whole
  let (significand, fractionLeft) := appendDigits significand fraction
  let places : Int := (fraction.length - fractionLeft.length : Nat)
  let size ← scaled? (Float.ofNat significand) (wholeLeft.length - places + exponent)
  return if negative then -size else size

def number : Reader Json := do
  let negative ← sign
  let whole ← wholePart
  let fraction ← fractionPart
  let exponent ← exponentPart
  let size : Int := Text.numberOf whole
  let value := if negative then -size else size
  let isInteger := fraction.isNone && exponent.isNone && !(negative && size = 0)
    && -0x8000000000000000 ≤ value && value < 0x10000000000000000
  if isInteger then return .integer value
  else return .float (← float? negative whole (fraction.getD []) (exponent.getD 0))

/-! ## Strings -/

def hexUnit : Reader Nat := do
  let a ← hexDigit
  let b ← hexDigit
  let c ← hexDigit
  let d ← hexDigit
  return ((a * 16 + b) * 16 + c) * 16 + d

def escapedUnit : Reader Char := do
  let unit ← hexUnit
  if 0xD800 ≤ unit && unit ≤ 0xDBFF then
    expect '\\'
    expect 'u'
    let low ← hexUnit
    guard (0xDC00 ≤ low && low ≤ 0xDFFF)
    return Char.ofNat (0x10000 + (unit - 0xD800) * 0x400 + (low - 0xDC00))
  else
    guard (!(0xDC00 ≤ unit && unit ≤ 0xDFFF))
    return Char.ofNat unit

def escaped : Reader Char := do
  match ← next with
  | '"' => return '"'
  | '\\' => return '\\'
  | '/' => return '/'
  | 'b' => return '\x08'
  | 'f' => return '\x0c'
  | 'n' => return '\n'
  | 'r' => return '\r'
  | 't' => return '\t'
  | 'u' => escapedUnit
  | _ => failure

def stringBody : Nat → List Char → Reader String
  | 0, _ => failure
  | budget + 1, read => do
    match ← next with
    | '"' => return String.ofList read.reverse
    | '\\' =>
      let c ← escaped
      stringBody budget (c :: read)
    | c =>
      guard (0x20 ≤ c.toNat)
      stringBody budget (c :: read)

def string : Reader String := do
  expect '"'
  let rest ← get
  stringBody (rest.length + 1) []

/-! ## Values -/

mutual

def value : (budget depth : Nat) → Reader Json
  | 0, _ => failure
  | budget + 1, depth => do
    skipSpace
    match ← peek? with
    | some '"' => return .text (← string)
    | some '[' =>
      expect '['
      guard (0 < depth)
      skipSpace
      if ← take ']' then return .list []
      else return .list (← items budget (depth - 1))
    | some '\x7b' =>
      expect '\x7b'
      guard (0 < depth)
      skipSpace
      if ← take '\x7d' then return .object []
      else return .object (← members budget (depth - 1))
    | some 't' => word "true" (.bool true)
    | some 'f' => word "false" (.bool false)
    | some 'n' => word "null" .null
    | _ => number

def items : (budget depth : Nat) → Reader (List Json)
  | 0, _ => failure
  | budget + 1, depth => do
    let item ← value budget depth
    skipSpace
    match ← next with
    | ',' => return item :: (← items budget depth)
    | ']' => return [item]
    | _ => failure

def members : (budget depth : Nat) → Reader (List (String × Json))
  | 0, _ => failure
  | budget + 1, depth => do
    skipSpace
    let name ← string
    skipSpace
    expect ':'
    let member ← value budget depth
    skipSpace
    match ← next with
    | ',' => return (name, member) :: (← members budget depth)
    | '\x7d' => return [(name, member)]
    | _ => failure

end

end Reader

def maxDepth : Nat := 127

def read? (s : String) : Option Json := do
  let cs := s.toList
  let (json, rest) ← (Reader.value (cs.length + 1) maxDepth).run cs
  guard (rest.all Reader.isSpace)
  return json

end DoubleEntry.Json
