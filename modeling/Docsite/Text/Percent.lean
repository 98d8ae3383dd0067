/-
**Percent-encoding.**

A character outside a chosen set is written as `%` and two hexadecimal digits for each byte of its
UTF-8 form. Decoding turns every such triple back into its byte and leaves everything else alone,
so a lone `%` is no error.

* `encode_of_kept`: text that needs no encoding is written as it is.
-/

import Docsite.Text.Numeral

namespace Docsite.Text.Percent

/-! ## Encoding -/

/-- The upper-case hexadecimal digit of a value below sixteen. -/
def hexDigit (n : Nat) : Char :=
  if n < 10 then Char.ofNat (0x30 + n) else Char.ofNat (0x41 + n - 10)

/-- One byte as a percent triple. -/
def triple (b : UInt8) : List Char :=
  ['%', hexDigit (b.toNat / 16), hexDigit (b.toNat % 16)]

/-- A text with every character that fails `keep` written as percent triples. -/
def encode (keep : Char → Bool) (cs : List Char) : List Char :=
  cs.flatMap fun c => if keep c then [c] else (String.utf8EncodeChar c).flatMap triple

/-- Text that needs no encoding is written as it is. -/
theorem encode_of_kept {keep : Char → Bool} {cs : List Char} (kept : ∀ c ∈ cs, keep c) :
    encode keep cs = cs := by
  induction cs with
  | nil => rfl
  | cons c rest ih =>
    have tail := ih fun d member => kept d (List.mem_cons_of_mem c member)
    rw [encode] at tail ⊢
    simp [kept c, tail]

/-! ## Decoding -/

/-- The bytes of a text in which every percent triple stands for its byte. -/
def decodeBytes : List Char → List UInt8
  | [] => []
  | '%' :: high :: low :: rest =>
    match Numeral.digit? high, Numeral.digit? low with
    | some h, some l => UInt8.ofNat (16 * h + l) :: decodeBytes rest
    | _, _ => 0x25 :: decodeBytes (high :: low :: rest)
  | c :: rest => String.utf8EncodeChar c ++ decodeBytes rest

/-- The decoded text, or nothing if the bytes are not UTF-8. -/
def decode? (s : String) : Option String :=
  String.fromUTF8? ⟨(decodeBytes s.toList).toArray⟩

/-- The decoded text, kept as written if the bytes are not UTF-8. -/
def decode (s : String) : String :=
  (decode? s).getD s

end Docsite.Text.Percent
