/-!
# JSON values

Integers are told apart from all other numbers: a number is an `integer` only if
it is written without fraction and exponent, is not a negative zero and fits 64
bits with or without sign.  Any other number is a floating-point number of 64 bits,
neither infinite nor undefined.
-/

namespace DoubleEntry

inductive Json where
  | null
  | bool (value : Bool)
  | integer (value : Int)
  | float (value : Float)
  | text (value : String)
  | list (items : List Json)
  | object (members : List (String × Json))
  deriving Inhabited, Repr

namespace Json

/-- The last member of that name, since a repeated member replaces the earlier one. -/
def member? (json : Json) (name : String) : Option Json :=
  match json with
  | object members => (members.reverse.find? fun m => m.1 == name).map Prod.snd
  | _ => none

def text? : Json → Option String
  | text value => some value
  | _ => none

def bool? : Json → Option Bool
  | bool value => some value
  | _ => none

def integer? : Json → Option Int
  | integer value => some value
  | _ => none

def list? : Json → Option (List Json)
  | list items => some items
  | _ => none

def natural? (json : Json) : Option Nat := do
  let value ← json.integer?
  guard (0 ≤ value)
  return value.toNat

def ofNat (n : Nat) : Json := integer n

def strings (items : List String) : Json := list (items.map text)

end Json

end DoubleEntry
