/-!
# Shortest decimals

The decimal with the fewest digits that reads back as a given number of 64 bits.  It
is found by exact comparison: on one grid of powers of ten after another, from coarse
to fine, the two neighbours of the number are tried.
-/

namespace DoubleEntry

/-- The size `digits * 10 ^ exponent`. -/
structure Decimal where
  digits : Nat
  exponent : Int
  deriving DecidableEq, Repr

inductive Halfway where
  | upper
  | even
  deriving DecidableEq, Repr

structure Dyadic where
  mantissa : Nat
  exponent : Int
  deriving DecidableEq, Repr

namespace Dyadic

def ofFloat (x : Float) : Dyadic :=
  let bits := x.toBits.toNat
  let fraction := bits % Nat.pow 2 52
  match bits / Nat.pow 2 52 % Nat.pow 2 11 with
  | 0 => ⟨fraction, -1074⟩
  | biased + 1 => ⟨Nat.pow 2 52 + fraction, (biased : Int) - 1074⟩

/-- A quarter of the last binary place, times a power of ten that moves the grid of the
decimals with exponent `place` to the integers, as a fraction. -/
def quarterOn (x : Dyadic) (place : Int) : Nat × Nat :=
  (Nat.pow 2 (x.exponent - 2).toNat * Nat.pow 10 (-place).toNat,
    Nat.pow 2 (2 - x.exponent).toNat * Nat.pow 10 place.toNat)

/-- In quarters of the last place, how far down the numbers go that round to this one.  The
place below a power of two is half as wide. -/
def reachBelow (x : Dyadic) : Nat :=
  if x.mantissa = Nat.pow 2 52 && -1074 < x.exponent then 1 else 2

def readsBack (x : Dyadic) (place : Int) (candidate : Nat) : Bool :=
  let (quarter, unit) := x.quarterOn place
  let low := (4 * x.mantissa - x.reachBelow) * quarter
  let high := (4 * x.mantissa + 2) * quarter
  if x.mantissa % 2 = 0 then low ≤ candidate * unit && candidate * unit ≤ high
  else low < candidate * unit && candidate * unit < high

def neighbour? (x : Dyadic) (halfway : Halfway) (place : Int) : Option Decimal :=
  let (quarter, unit) := x.quarterOn place
  let size := 4 * x.mantissa * quarter
  let lower := size / unit
  let closer := match compare ((2 * lower + 1) * unit) (2 * size) with
    | .lt => lower + 1
    | .gt => lower
    | .eq => if halfway = .upper || lower % 2 = 1 then lower + 1 else lower
  match x.readsBack place lower, x.readsBack place (lower + 1) with
  | true, true => some ⟨closer, place⟩
  | true, false => some ⟨lower, place⟩
  | false, true => some ⟨lower + 1, place⟩
  | false, false => none

def exact (x : Dyadic) : Decimal :=
  match x.exponent with
  | .ofNat e => ⟨x.mantissa * Nat.pow 2 e, 0⟩
  | .negSucc e => ⟨x.mantissa * Nat.pow 5 (e + 1), -(e + 1)⟩

/-- No number has a digit before the place of `10 ^ 309`, and seventeen digits always suffice. -/
def shortest (x : Dyadic) (halfway : Halfway) : Decimal :=
  if x.mantissa = 0 then ⟨0, 0⟩
  else
    let places : List Int := (List.range 660).map fun (step : Nat) => (309 : Int) - step
    (places.findSome? (x.neighbour? halfway)).getD x.exact

end Dyadic

end DoubleEntry
