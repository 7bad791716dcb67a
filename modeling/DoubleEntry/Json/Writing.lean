import DoubleEntry.Decimal.Notation
import DoubleEntry.Json.Value

/-!
# Writing JSON

One line without blanks, the members of an object in their order.  A number that is
no integer always shows a point or an exponent.
-/

namespace DoubleEntry.Json

def hexUnit (n : Nat) : String :=
  let digits := Nat.toDigits 16 n
  "".pushn '0' (4 - digits.length) ++ String.ofList digits

def escapeChar (c : Char) : String :=
  match c with
  | '"' => "\\\""
  | '\\' => "\\\\"
  | '\n' => "\\n"
  | '\r' => "\\r"
  | '\t' => "\\t"
  | c => if c.toNat < 0x20 then "\\u" ++ hexUnit c.toNat else c.toString

def writeString (s : String) : String :=
  "\"" ++ s.foldl (fun written c => written ++ escapeChar c) "" ++ "\""

def writeDecimal (d : Decimal) : String :=
  if d.pointAfter ≤ -5 || 16 < d.pointAfter then d.withExponent
  else if 0 ≤ d.exponent then d.positional ++ ".0"
  else d.positional

def writeFloat (x : Float) : String :=
  Decimal.signOf x ++ writeDecimal ((Dyadic.ofFloat x).shortest .even)

mutual

def write : Json → String
  | null => "null"
  | bool value => if value then "true" else "false"
  | integer value => toString value
  | float value => writeFloat value
  | text value => writeString value
  | list items => "[" ++ ",".intercalate (writeItems items) ++ "]"
  | object members => "\x7b" ++ ",".intercalate (writeMembers members) ++ "\x7d"

def writeItems : List Json → List String
  | [] => []
  | item :: items => write item :: writeItems items

def writeMembers : List (String × Json) → List String
  | [] => []
  | (name, member) :: members => (writeString name ++ ":" ++ write member) :: writeMembers members

end

end DoubleEntry.Json
