import DoubleEntry.Text.Digits

/-!
# Universally unique identifiers

A 128-bit value, ordered as the number that its sixteen bytes spell.  It is
written as five groups of lower-case hexadecimal digits and read from that form,
from the digits alone, and from the grouped form in braces or after `urn:uuid:`.
-/

namespace DoubleEntry

structure Uuid where
  bits : BitVec 128
  deriving DecidableEq, Repr

namespace Uuid

instance : Inhabited Uuid := ⟨⟨0⟩⟩

instance : LT Uuid := ⟨fun a b => a.bits.toNat < b.bits.toNat⟩

instance (a b : Uuid) : Decidable (a < b) :=
  inferInstanceAs (Decidable (a.bits.toNat < b.bits.toNat))

instance : Ord Uuid := ⟨fun a b => compare a.bits.toNat b.bits.toNat⟩

/-! ## Written form -/

def groupSizes : List Nat := [8, 4, 4, 4, 12]

def hexDigits (n : Nat) : Nat → List Char
  | 0 => []
  | count + 1 => hexDigits (n / 16) count ++ [Nat.digitChar (n % 16)]

def grouped : List Nat → List Char → List (List Char)
  | [], _ => []
  | size :: sizes, cs => cs.take size :: grouped sizes (cs.drop size)

def toString (u : Uuid) : String :=
  let groups := grouped groupSizes (hexDigits u.bits.toNat 32)
  "-".intercalate (groups.map String.ofList)

instance : ToString Uuid := ⟨toString⟩

/-! ## Reading -/

def ofDigits? (cs : List Char) : Option Uuid := do
  guard (cs.length = 32)
  let digits ← cs.mapM Text.hexValue?
  return ⟨BitVec.ofNat 128 (digits.foldl (fun n d => n * 16 + d) 0)⟩

/-- Removes the hyphens between the five groups, which must stand in their places. -/
def ungroup? : List Nat → List Char → Option (List Char)
  | [], cs => if cs.isEmpty then some [] else none
  | [size], cs => if cs.length = size then some cs else none
  | size :: sizes, cs =>
    match cs.drop size with
    | '-' :: rest => (cs.take size ++ ·) <$> ungroup? sizes rest
    | _ => none

def ofGroups? (cs : List Char) : Option Uuid := do
  guard (cs.length = 36)
  ofDigits? (← ungroup? groupSizes cs)

def urnLabel : List Char := "urn:uuid:".toList

def ofString? (s : String) : Option Uuid :=
  let cs := s.toList
  match cs.length with
  | 32 => ofDigits? cs
  | 36 => ofGroups? cs
  | 38 =>
    if cs.head? = some '\x7b' ∧ cs.getLast? = some '\x7d' then ofGroups? cs.tail.dropLast
    else none
  | 45 =>
    if (cs.take 9).map Char.toLower = urnLabel then ofGroups? (cs.drop 9) else none
  | _ => none

/-! ## Time-ordered identifiers

The 48 leading bits hold a count of milliseconds, then come the version digit 7,
twelve bits, the two variant bits and 62 bits more.  The free 74 bits count the
identifiers issued within the same millisecond.
-/

def timeOrdered (millis count : Nat) : Uuid :=
  ⟨BitVec.ofNat 128
    ((((millis % Nat.pow 2 48 * 16 + 7) * Nat.pow 2 12 + count / Nat.pow 2 62 % Nat.pow 2 12) * 4
      + 2) * Nat.pow 2 62 + count % Nat.pow 2 62)⟩

def series (millis serial : Nat) : Uuid :=
  timeOrdered (millis + serial / Nat.pow 2 74) (serial % Nat.pow 2 74)

def version (u : Uuid) : Nat := u.bits.toNat / Nat.pow 2 76 % 16

end Uuid

end DoubleEntry
