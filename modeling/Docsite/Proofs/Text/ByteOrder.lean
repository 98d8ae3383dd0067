/-
**The order of texts is the order of their bytes.**

Texts are compared by their characters. The bytes of a character grow with it, and the bytes of two
characters differ before either of them ends, so comparing the bytes of two texts gives the same
answer.

* `bytes_lt_bytes`: a text comes before another one exactly if its bytes do.
-/

import Mathlib.Data.List.Lex
import Mathlib.Data.String.Basic

namespace Docsite.Text

/-- The bytes of a text in UTF-8. -/
def bytes (s : String) : List UInt8 :=
  s.toUTF8.data.toList

theorem bytes_eq_flatMap (s : String) : bytes s = s.toList.flatMap String.utf8EncodeChar := by
  have same : s.toUTF8 = s.toList.utf8Encode := String.utf8Encode_toList.symm
  rw [bytes, same, List.utf8Encode]
  simp

/-! ## One character -/

/-- Bytes are compared by their values. -/
theorem ofNat_cons_lt {first second : Nat} (isByte : first < 256) (isByte' : second < 256)
    {cs ds : List UInt8} :
    UInt8.ofNat first :: cs < UInt8.ofNat second :: ds ↔
      first < second ∨ first = second ∧ cs < ds := by
  rw [List.cons_lt_cons_iff, UInt8.lt_iff_toNat_lt, ← UInt8.toNat_inj, UInt8.toNat_ofNat',
    UInt8.toNat_ofNat', Nat.mod_eq_of_lt isByte, Nat.mod_eq_of_lt isByte']

/-- **The bytes of a smaller character are smaller, whatever follows them.** -/
theorem utf8EncodeChar_append_lt {c d : Char} (less : c < d) (cs ds : List UInt8) :
    String.utf8EncodeChar c ++ cs < String.utf8EncodeChar d ++ ds := by
  have values : c.val.toNat < d.val.toNat := less
  have bound : d.val.toNat < 0x110000 := by
    have valid := d.valid
    simp only [UInt32.isValidChar, Nat.isValidChar] at valid
    omega
  -- The higher digits are written as repeated quotients, so that each byte is a digit to base 64.
  have third (n : Nat) : n / 4096 = n / 64 / 64 := by omega
  have fourth (n : Nat) : n / 262144 = n / 64 / 64 / 64 := by omega
  unfold String.utf8EncodeChar
  dsimp only
  generalize c.val.toNat = v at *
  generalize d.val.toNat = w at *
  split_ifs <;>
    simp (disch := omega) only [List.cons_append, List.nil_append, ofNat_cons_lt, third, fourth] <;>
    omega

/-! ## Texts -/

theorem flatMap_utf8EncodeChar_lt {cs ds : List Char} (less : cs < ds) :
    cs.flatMap String.utf8EncodeChar < ds.flatMap String.utf8EncodeChar := by
  induction less with
  | nil =>
    rename_i d ds
    rw [List.flatMap_nil, List.flatMap_cons]
    cases encoded : String.utf8EncodeChar d with
    | nil => exact absurd encoded String.utf8EncodeChar_ne_nil
    | cons byte more => exact List.nil_lt_cons byte _
  | cons _ ih =>
    rw [List.flatMap_cons, List.flatMap_cons]
    exact List.Lex.append_left _ ih _
  | rel less =>
    rw [List.flatMap_cons, List.flatMap_cons]
    exact utf8EncodeChar_append_lt less _ _

/-- **A text comes before another one exactly if its bytes do.** -/
theorem bytes_lt_bytes {s t : String} : bytes s < bytes t ↔ s < t := by
  rw [bytes_eq_flatMap, bytes_eq_flatMap]
  have forward {s t : String} (less : s < t) :
      s.toList.flatMap String.utf8EncodeChar < t.toList.flatMap String.utf8EncodeChar :=
    flatMap_utf8EncodeChar_lt (String.lt_iff_toList_lt.mp less)
  constructor
  · intro less
    rcases lt_trichotomy s t with before | same | after
    · exact before
    · rw [same] at less
      exact absurd less (List.lt_irrefl _)
    · exact absurd (forward after) (List.lt_asymm less)
  · exact forward

end Docsite.Text
