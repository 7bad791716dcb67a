import Mathlib.Data.List.Basic
import Mathlib.Order.Monotone.Defs
import Mathlib.Data.String.Basic

/-!
# The order of texts and of their bytes

Texts are compared letter by letter.  In UTF-8 a letter with a smaller code has bytes
that come first, whatever follows it, so comparing the bytes gives the same order
(`utf8_strictMono`).
-/

namespace DoubleEntry.Text

def utf8 (text : String) : List Nat := text.toUTF8.data.toList.map UInt8.toNat

def letterUtf8 (letter : Char) : List Nat := (String.utf8EncodeChar letter).map UInt8.toNat

private theorem utf8_eq (text : String) : utf8 text = text.toList.flatMap letterUtf8 := by
  obtain ⟨letters, rfl⟩ := text.exists_eq_ofList
  simp only [utf8, String.toUTF8_eq_toByteArray, String.toByteArray_ofList, List.utf8Encode,
    List.toList_data_toByteArray, List.map_flatMap, String.toList_ofList]
  rfl

theorem letterUtf8_eq (letter : Char) (code : Nat) (isCode : letter.val.toNat = code) :
    letterUtf8 letter =
      if code < 128 then [code]
      else if code < 2048 then [192 + code / 64, 128 + code % 64]
      else if code < 65536 then [224 + code / 4096, 128 + code / 64 % 64, 128 + code % 64]
      else [240 + code / 262144, 128 + code / 4096 % 64, 128 + code / 64 % 64,
        128 + code % 64] := by
  have bound : code < 1114112 := by
    have valid := letter.valid
    unfold UInt32.isValidChar Nat.isValidChar at valid
    omega
  unfold letterUtf8 String.utf8EncodeChar
  rw [isCode]
  dsimp only
  split_ifs <;>
    simp only [List.map_cons, List.map_nil, UInt8.toNat_ofNat', List.cons.injEq, and_true] <;>
    omega

private theorem letterUtf8_append_lt {a b : Char} (less : a < b) (rest rest' : List Nat) :
    letterUtf8 a ++ rest < letterUtf8 b ++ rest' := by
  have codes : a.val.toNat < b.val.toNat := less
  rw [letterUtf8_eq a _ rfl, letterUtf8_eq b _ rfl]
  generalize a.val.toNat = first at codes ⊢
  generalize b.val.toNat = second at codes ⊢
  -- a longer form starts with a greater byte; forms of one length differ first where the codes do
  split_ifs <;>
    simp only [List.cons_append, List.nil_append, List.cons_lt_cons_iff] <;>
    omega

private theorem flatMap_letterUtf8_lt {a b : List Char} (less : a < b) :
    a.flatMap letterUtf8 < b.flatMap letterUtf8 := by
  induction less with
  | @nil letter rest =>
      rw [List.flatMap_cons, letterUtf8_eq letter _ rfl]
      split_ifs <;> exact List.nil_lt_cons _ _
  | rel less => simpa using letterUtf8_append_lt less _ _
  | cons less ih => simpa using List.append_left_lt ih

theorem utf8_strictMono : StrictMono utf8 := fun a b less => by
  rw [utf8_eq, utf8_eq]
  exact flatMap_letterUtf8_lt (String.lt_iff_toList_lt.mp less)

end DoubleEntry.Text
