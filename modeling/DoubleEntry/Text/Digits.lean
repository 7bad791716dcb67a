/-!
# Digits

The numbers that digits stand for.
-/

namespace DoubleEntry.Text

def digitValue (c : Char) : Nat := c.toNat - '0'.toNat

def numberOf (digits : List Char) : Nat :=
  digits.foldl (fun n c => n * 10 + digitValue c) 0

def unsigned? (cs : List Char) : Option Nat := do
  let digits := match cs with
    | '+' :: digits => digits
    | digits => digits
  guard (!digits.isEmpty && digits.all Char.isDigit)
  return numberOf digits

def hexValue? (c : Char) : Option Nat :=
  if c.isDigit then some (digitValue c)
  else if 'a' ≤ c && c ≤ 'f' then some (c.toNat - 'a'.toNat + 10)
  else if 'A' ≤ c && c ≤ 'F' then some (c.toNat - 'A'.toNat + 10)
  else none

end DoubleEntry.Text
