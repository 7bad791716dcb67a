import Mathlib.Data.List.DropRight
import DoubleEntry.Text.Blank

/-!
# Trimming twice

What is left after trimming begins and ends with characters that are not blank,
so trimming it again changes nothing.
-/

namespace DoubleEntry.Text

theorem trimChars_eq (cs : List Char) :
    trimChars cs = (cs.dropWhile isBlank).rdropWhile isBlank := rfl

private theorem dropWhile_trimChars (cs : List Char) :
    (trimChars cs).dropWhile isBlank = trimChars cs := by
  rw [trimChars_eq, List.dropWhile_eq_self_iff]
  intro nonempty
  have starts : (cs.dropWhile isBlank).rdropWhile isBlank <+: cs.dropWhile isBlank :=
    List.rdropWhile_prefix isBlank _
  have longer : 0 < (cs.dropWhile isBlank).length :=
    Nat.lt_of_lt_of_le nonempty starts.length_le
  rw [starts.getElem nonempty]
  exact List.dropWhile_eq_self_iff.mp (List.dropWhile_idempotent isBlank cs) longer

private theorem trimChars_trimChars (cs : List Char) : trimChars (trimChars cs) = trimChars cs := by
  rw [trimChars_eq (trimChars cs), dropWhile_trimChars, trimChars_eq]
  exact List.rdropWhile_idempotent isBlank _

@[simp] theorem trim_trim (s : String) : trim (trim s) = trim s := by
  simp [trim, trimChars_trimChars]

end DoubleEntry.Text
