/-
**What a text ends in, percent-decoding keeps.**

The bytes of a character are those of no other text that ends elsewhere, so a text whose bytes end in
them ends in the character. A character that is no hexadecimal digit therefore stays at the end of a
text that is decoded.

* `last_of_utf8`: the last character of a text, from its bytes.
* `Percent.decode?_concat`: the last character of a decoded text.
-/

import Mathlib.Data.List.Basic
import Docsite.Text.Percent

namespace Docsite.Text

/-! ## Bytes of characters -/

/-- Different characters have different bytes. -/
theorem utf8EncodeChar_inj {c d : Char} (same : String.utf8EncodeChar c = String.utf8EncodeChar d) :
    c = d := by
  have decoded := congrArg (fun bytes => bytes.toByteArray.utf8Decode?) same
  simp only [← List.utf8Encode_singleton, List.utf8Decode?_utf8Encode] at decoded
  simpa using decoded

/-- The bytes of a character do not begin within those of another one that ends with them. -/
theorem utf8EncodeChar_length_le {front other : List UInt8} {c d : Char}
    (same : front ++ String.utf8EncodeChar c = other ++ String.utf8EncodeChar d) :
    (String.utf8EncodeChar d).length ≤ (String.utf8EncodeChar c).length := by
  by_contra shorter
  have lengths := congrArg List.length same
  simp only [List.length_append] at lengths
  -- The first byte of `c` stands inside the bytes of `d`, where no character begins.
  have starts : 0 < (String.utf8EncodeChar c).length := by
    rw [String.length_utf8EncodeChar]
    exact c.utf8Size_pos
  have inside : front.length - other.length < (String.utf8EncodeChar d).length := by omega
  have byte : (String.utf8EncodeChar c)[0] =
      (String.utf8EncodeChar d)[front.length - other.length] := by
    have at? := congrArg (fun bytes => bytes[front.length]?) same
    simp only [List.getElem?_append_right (Nat.le_refl _), Nat.sub_self,
      List.getElem?_append_right (show other.length ≤ front.length by omega),
      List.getElem?_eq_getElem starts, List.getElem?_eq_getElem inside, Option.some.injEq] at at?
    exact at?
  have first : (String.utf8EncodeChar c)[0].IsUTF8FirstByte :=
    UInt8.isUTF8FirstByte_getElem_utf8EncodeChar.mpr rfl
  rw [byte] at first
  have atStart := UInt8.isUTF8FirstByte_getElem_utf8EncodeChar.mp first
  omega

/-- **A text whose bytes end in those of a character ends in that character.** -/
theorem last_of_utf8 {cs : List Char} {front : List UInt8} {c : Char}
    (same : cs.flatMap String.utf8EncodeChar = front ++ String.utf8EncodeChar c) :
    ∃ before, cs = before ++ [c] := by
  rcases List.eq_nil_or_concat cs with rfl | ⟨before, d, rfl⟩
  · have empty := (List.append_eq_nil_iff.mp same.symm).2
    exact absurd empty String.utf8EncodeChar_ne_nil
  · refine ⟨before, ?_⟩
    rw [List.concat_eq_append, List.flatMap_append, List.flatMap_singleton] at same
    have lengths := Nat.le_antisymm (utf8EncodeChar_length_le same)
      (utf8EncodeChar_length_le same.symm)
    rw [List.concat_eq_append, utf8EncodeChar_inj (List.append_inj_right' same lengths.symm)]

/-- A text that bytes spell has those bytes. -/
theorem flatMap_of_fromUTF8? {bytes : List UInt8} {s : String}
    (read : String.fromUTF8? ⟨bytes.toArray⟩ = some s) :
    s.toList.flatMap String.utf8EncodeChar = bytes := by
  unfold String.fromUTF8? at read
  split at read
  · next valid =>
    cases read
    have same : (String.fromUTF8 ⟨bytes.toArray⟩ valid).toByteArray = ⟨bytes.toArray⟩ := rfl
    rw [← String.utf8Encode_toList, List.utf8Encode] at same
    simpa using congrArg (fun array => array.data.toList) same
  · cases read

/-! ## Percent-decoding -/

namespace Percent

theorem decodeBytes_nil : decodeBytes [] = [] := by
  rw [decodeBytes]

/-- A character that opens no triple stands for its own bytes. -/
theorem decodeBytes_cons {c : Char} {cs : List Char}
    (noTriple : ∀ high low rest, c = '%' → cs = high :: low :: rest → False) :
    decodeBytes (c :: cs) = String.utf8EncodeChar c ++ decodeBytes cs := by
  rw [decodeBytes]
  exact noTriple

/-- A mark without two digits behind it stands for itself. -/
theorem decodeBytes_mark {high low : Char}
    (noDigits : Numeral.digit? high = none ∨ Numeral.digit? low = none) (cs : List Char) :
    decodeBytes ('%' :: high :: low :: cs) = 0x25 :: decodeBytes (high :: low :: cs) := by
  rw [decodeBytes]
  rcases noDigits with noHigh | noLow
  · rw [noHigh]
  · rw [noLow]
    cases Numeral.digit? high <;> rfl

/-- A character that is no hexadecimal digit belongs to no triple in front of it. -/
theorem decodeBytes_concat {c : Char} (noDigit : Numeral.digit? c = none) (cs : List Char) :
    decodeBytes (cs ++ [c]) = decodeBytes cs ++ String.utf8EncodeChar c := by
  fun_induction decodeBytes cs with
  | case1 =>
    rw [List.nil_append, decodeBytes_cons (fun _ _ _ _ few => by cases few), decodeBytes_nil,
      List.append_nil, List.nil_append]
  | case2 high low rest h l isHigh isLow ih =>
    rw [List.cons_append, List.cons_append, List.cons_append, decodeBytes, isHigh, isLow]
    dsimp only
    rw [ih, List.cons_append]
  | case3 high low rest noDigits ih =>
    have missing : Numeral.digit? high = none ∨ Numeral.digit? low = none := by
      match isHigh : Numeral.digit? high, isLow : Numeral.digit? low with
      | none, _ => exact .inl rfl
      | some _, none => exact .inr rfl
      | some h, some l => exact (noDigits h l isHigh isLow).elim
    rw [List.cons_append, List.cons_append, List.cons_append, decodeBytes_mark missing,
      ← List.cons_append, ← List.cons_append, ih]
    rfl
  | case4 d rest noTriple ih =>
    rw [List.cons_append]
    by_cases mark : d = '%' ∧ rest.length = 1
    · obtain ⟨rfl, single⟩ := mark
      obtain ⟨high, rfl⟩ := List.length_eq_one_iff.mp single
      rw [List.cons_append, List.nil_append, decodeBytes_mark (.inr noDigit)]
      exact congrArg _ ih
    · rw [decodeBytes_cons, ih, List.append_assoc]
      rintro high low more rfl split
      have lengths := congrArg List.length split
      simp only [List.length_append, List.length_cons, List.length_nil] at lengths
      match rest with
      | [] => simp at lengths
      | [_] => exact mark ⟨rfl, rfl⟩
      | high :: low :: more => exact noTriple high low more rfl rfl

/-- **A decoded text ends in the last character, if that is no hexadecimal digit.** -/
theorem decode?_concat {c : Char} (noDigit : Numeral.digit? c = none) {cs : List Char}
    {decoded : String} (read : decode? (String.ofList (cs ++ [c])) = some decoded) :
    ∃ before, decoded.toList = before ++ [c] := by
  rw [decode?, String.toList_ofList, decodeBytes_concat noDigit] at read
  exact last_of_utf8 (flatMap_of_fromUTF8? read)

end Percent

end Docsite.Text
