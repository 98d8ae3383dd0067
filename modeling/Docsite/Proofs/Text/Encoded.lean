/-
**Decoding what was percent-encoded.**

A text is encoded where some of its characters stand for themselves and every other character is written
as a triple for each of its bytes, with hexadecimal digits of either case. Decoding gives the text back.

* `Spells`: how characters are spelled.
* `Spells.decode`: what is spelled is decoded.
* `Spells.exists_append`: a text is spelled part by part.
-/

import Docsite.Proofs.List.Correspondence
import Docsite.Proofs.Text.Percent

namespace Docsite.Text.Percent

/-- A percent mark and two hexadecimal digits, of either case, that stand for a byte. -/
def IsTriple (b : UInt8) (text : List Char) : Prop :=
  ∃ high low h l, text = ['%', high, low] ∧ Numeral.digit? high = some h ∧
    Numeral.digit? low = some l ∧ 16 * h + l = b.toNat

/-- A text spells characters: those to be kept stand for themselves, and any other one is written as a
triple for each of its bytes. -/
inductive Spells (keep : Char → Bool) : List Char → List Char → Prop
  | nil : Spells keep [] []
  | kept {c : Char} {cs text : List Char} : keep c = true → Spells keep cs text →
      Spells keep (c :: cs) (c :: text)
  | coded {c : Char} {cs text : List Char} {triples : List (List Char)} : keep c = false →
      List.Forall₂ IsTriple (String.utf8EncodeChar c) triples → Spells keep cs text →
      Spells keep (c :: cs) (triples.flatten ++ text)

/-! ## Decoding -/

theorem decodeBytes_triples {bytes : List UInt8} {triples : List (List Char)}
    (spelled : List.Forall₂ IsTriple bytes triples) (rest : List Char) :
    decodeBytes (triples.flatten ++ rest) = bytes ++ decodeBytes rest := by
  induction spelled with
  | nil => rfl
  | @cons b triple bytes triples isTriple _ ih =>
    obtain ⟨high, low, h, l, rfl, isHigh, isLow, value⟩ := isTriple
    rw [List.flatten_cons, List.append_assoc, List.cons_append, List.cons_append, List.cons_append,
      List.nil_append, decodeBytes, isHigh, isLow]
    dsimp only
    rw [ih, value, UInt8.ofNat_toNat, List.cons_append]

section Spelled

variable {keep : Char → Bool} {cs text : List Char}

/-- The bytes of a text that is spelled without a mark of its own. -/
theorem Spells.decodeBytes_eq (spelled : Spells keep cs text) (noMark : keep '%' = false) :
    decodeBytes text = cs.flatMap String.utf8EncodeChar := by
  induction spelled with
  | nil => exact decodeBytes_nil
  | @kept c cs text kept _ ih =>
    have notMark : c ≠ '%' := by
      rintro rfl
      exact absurd (kept.symm.trans noMark) (by decide)
    rw [decodeBytes_cons fun _ _ _ isMark _ => notMark isMark, ih, List.flatMap_cons]
  | coded _ triples _ ih => rw [decodeBytes_triples triples, ih, List.flatMap_cons]

/-- The bytes of a text are read as that text. -/
theorem fromUTF8?_flatMap (cs : List Char) :
    String.fromUTF8? ⟨(cs.flatMap String.utf8EncodeChar).toArray⟩ = some (String.ofList cs) := by
  have same : (String.ofList cs).toByteArray = ⟨(cs.flatMap String.utf8EncodeChar).toArray⟩ := by
    rw [← String.utf8Encode_toList, String.toList_ofList, List.utf8Encode]
    exact ByteArray.ext (by simp)
  rw [← same]
  exact dif_pos (String.ofList cs).isValidUTF8

/-- **What is spelled is decoded.** -/
theorem Spells.decode (spelled : Spells keep cs text) (noMark : keep '%' = false) :
    Percent.decode (String.ofList text) = String.ofList cs := by
  rw [Percent.decode, decode?, String.toList_ofList, spelled.decodeBytes_eq noMark,
    fromUTF8?_flatMap, Option.getD_some]

/-! ## Parts -/

/-- **A text is spelled part by part.** -/
theorem Spells.exists_append {front back : List Char} (spelled : Spells keep (front ++ back) text) :
    ∃ before behind, text = before ++ behind ∧ Spells keep front before ∧
      Spells keep back behind := by
  induction front generalizing text with
  | nil => exact ⟨[], text, rfl, .nil, spelled⟩
  | cons c front ih =>
    cases spelled with
    | kept kept rest =>
      obtain ⟨before, behind, rfl, isFront, isBack⟩ := ih rest
      exact ⟨c :: before, behind, rfl, .kept kept isFront, isBack⟩
    | coded coded triples rest =>
      obtain ⟨before, behind, rfl, isFront, isBack⟩ := ih rest
      exact ⟨_, behind, (List.append_assoc _ before behind).symm, .coded coded triples isFront,
        isBack⟩

theorem Spells.append {other behind : List Char} (spelled : Spells keep cs text)
    (after : Spells keep other behind) : Spells keep (cs ++ other) (text ++ behind) := by
  induction spelled with
  | nil => exact after
  | kept kept _ ih => exact .kept kept ih
  | coded coded triples _ ih =>
    rw [List.append_assoc]
    exact .coded coded triples ih

/-- Characters that are kept are spelled by themselves alone. -/
theorem Spells.eq_of_kept (spelled : Spells keep cs text) (kept : ∀ c ∈ cs, keep c = true) :
    text = cs := by
  induction spelled with
  | nil => rfl
  | @kept c _ _ _ _ ih => rw [ih fun d member => kept d (List.mem_cons_of_mem c member)]
  | @coded c _ _ _ coded _ _ _ =>
    exact absurd ((kept c List.mem_cons_self).symm.trans coded) (by decide)

/-- **What ends a text ends its spelling**, if it is kept. -/
theorem Spells.suffix {ending : List Char} (spelled : Spells keep cs text) (ends : ending <:+ cs)
    (kept : ∀ c ∈ ending, keep c = true) : ending <:+ text := by
  obtain ⟨front, rfl⟩ := ends
  obtain ⟨before, behind, rfl, -, isEnding⟩ := spelled.exists_append
  rw [isEnding.eq_of_kept kept]
  exact List.suffix_append before ending

/-- Where no other character is affected, more characters may be kept. -/
theorem Spells.mono {keep' : Char → Bool} (spelled : Spells keep cs text)
    (same : ∀ c ∈ cs, keep' c = keep c) : Spells keep' cs text := by
  induction spelled with
  | nil => exact .nil
  | @kept c _ _ kept _ ih =>
    exact .kept ((same c List.mem_cons_self).trans kept)
      (ih fun d member => same d (List.mem_cons_of_mem c member))
  | @coded c _ _ _ coded triples _ ih =>
    exact .coded ((same c List.mem_cons_self).trans coded) triples
      (ih fun d member => same d (List.mem_cons_of_mem c member))

/-- A spelling holds characters that are kept, marks and hexadecimal digits. -/
theorem Spells.mem {d : Char} (spelled : Spells keep cs text) (member : d ∈ text) :
    keep d = true ∨ d = '%' ∨ ∃ value, Numeral.digit? d = some value := by
  induction spelled with
  | nil => cases member
  | kept kept _ ih =>
    rcases List.mem_cons.mp member with rfl | member
    · exact .inl kept
    · exact ih member
  | coded _ triples _ ih =>
    rcases List.mem_append.mp member with inTriples | member
    · obtain ⟨triple, isMember, inTriple⟩ := List.mem_flatten.mp inTriples
      obtain ⟨b, -, high, low, h, l, rfl, isHigh, isLow, -⟩ := exists_of_mem_forall₂ triples isMember
      simp only [List.mem_cons, List.not_mem_nil, or_false] at inTriple
      rcases inTriple with rfl | rfl | rfl
      · exact .inr (.inl rfl)
      · exact .inr (.inr ⟨h, isHigh⟩)
      · exact .inr (.inr ⟨l, isLow⟩)
    · exact ih member

/-- A spelling starts with a mark or with the first character of what it spells. -/
theorem Spells.head?_eq {d : Char} (spelled : Spells keep cs text) (starts : text.head? = some d)
    (notMark : d ≠ '%') : cs.head? = some d := by
  cases spelled with
  | nil => exact starts
  | kept _ _ => exact starts
  | @coded c cs text triples _ areTriples _ =>
    exfalso
    obtain ⟨b, bytes, split⟩ := List.exists_cons_of_ne_nil (String.utf8EncodeChar_ne_nil (c := c))
    rw [split] at areTriples
    cases areTriples with
    | cons isTriple _ =>
      obtain ⟨high, low, h, l, rfl, -⟩ := isTriple
      exact notMark (Option.some.inj starts).symm

end Spelled

/-! ## Encoding -/

theorem isTriple_triple (b : UInt8) : IsTriple b (triple b) := by
  have digits : ∀ n < 16, Numeral.digit? (hexDigit n) = some n := by decide
  have small : b.toNat < 256 := b.toNat_lt
  exact ⟨_, _, b.toNat / 16, b.toNat % 16, rfl, digits _ (by omega), digits _ (by omega), by omega⟩

/-- **An encoded text spells the text.** -/
theorem spells_encode (keep : Char → Bool) (cs : List Char) : Spells keep cs (encode keep cs) := by
  induction cs with
  | nil => exact .nil
  | cons c cs ih =>
    have written : encode keep (c :: cs) =
        (if keep c then [c] else (String.utf8EncodeChar c).flatMap triple) ++ encode keep cs :=
      List.flatMap_cons
    rw [written]
    cases kept : keep c with
    | true => exact .kept kept ih
    | false =>
      rw [if_neg Bool.false_ne_true, List.flatMap_def]
      refine .coded kept ?_ ih
      exact List.forall₂_map_right_iff.mpr (List.forall₂_same.mpr fun b _ => isTriple_triple b)

end Docsite.Text.Percent
