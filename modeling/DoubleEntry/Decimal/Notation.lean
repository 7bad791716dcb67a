import DoubleEntry.Decimal.Shortest

/-!
# Notations of decimals

A decimal is written in positional notation, or with its point after the first digit
and an exponent.
-/

namespace DoubleEntry.Decimal

def signOf (x : Float) : String := if x.toBits < 0x8000000000000000 then "" else "-"

def figures (d : Decimal) : List Char := Nat.toDigits 10 d.digits

/-- How many digits stand before the point; not positive if zeros follow it first. -/
def pointAfter (d : Decimal) : Int := d.figures.length + d.exponent

def zeros (count : Int) : List Char := List.replicate count.toNat '0'

def positional (d : Decimal) : String :=
  let figures := d.figures
  let point := d.pointAfter
  if 0 ≤ d.exponent then String.ofList (figures ++ zeros d.exponent)
  else if 0 < point then
    String.ofList (figures.take point.toNat ++ '.' :: figures.drop point.toNat)
  else String.ofList ('0' :: '.' :: zeros (-point) ++ figures)

def withExponent (d : Decimal) : String :=
  let mantissa := match d.figures with
    | first :: [] => [first]
    | first :: rest => first :: '.' :: rest
    | [] => []
  String.ofList mantissa ++ "e" ++ toString (d.pointAfter - 1)

end DoubleEntry.Decimal
