/-
**Texts without percent triples.**

Where percent marks are kept, an encoded text is decoded to the text only if no mark in it stands in front
of two hexadecimal digits: such a mark would be read as one of its own. A text without such triples comes
back as it was, whichever of its characters are encoded.

* `holdsTriple`: whether a triple stands anywhere in a text.
* `decode?_encode`: a text without triples comes back.
* `holdsTriple_intercalate`: triples stand between slashes only.
-/

import Docsite.Proofs.Text.Encoded

namespace Docsite.Text.Percent

/-! ## Triples -/

/-- Whether a text starts with a percent mark and two hexadecimal digits. -/
def opensTriple : List Char → Bool
  | '%' :: high :: low :: _ => (Numeral.digit? high).isSome && (Numeral.digit? low).isSome
  | _ => false

/-- Whether a percent mark and two hexadecimal digits stand anywhere in a text. -/
def holdsTriple : List Char → Bool
  | [] => false
  | c :: rest => opensTriple (c :: rest) || holdsTriple rest

section Slashes

theorem opensTriple_append_slash (front back : List Char) (c : Char) :
    opensTriple (c :: (front ++ '/' :: back)) = opensTriple (c :: front) := by
  have noDigit : Numeral.digit? '/' = none := by decide
  by_cases mark : c = '%'
  · subst mark
    match front with
    | [] => cases back <;> simp [opensTriple, noDigit]
    | [high] => simp [opensTriple, noDigit]
    | high :: low :: rest => rfl
  · have notMark (cs : List Char) : opensTriple (c :: cs) = false := by
      unfold opensTriple
      split
      · next same => exact absurd (List.cons.inj same).1 mark
      · rfl
    rw [notMark, notMark]

theorem holdsTriple_append_slash (front back : List Char) :
    holdsTriple (front ++ '/' :: back) = (holdsTriple front || holdsTriple back) := by
  induction front with
  | nil => rfl
  | cons c front ih =>
    rw [List.cons_append, holdsTriple, holdsTriple, opensTriple_append_slash, ih, Bool.or_assoc]

/-- **A triple in a path stands in one of its segments.** -/
theorem holdsTriple_intercalate {segments : List (List Char)}
    (noTriple : ∀ segment ∈ segments, holdsTriple segment = false) :
    holdsTriple (['/'].intercalate segments) = false := by
  induction segments with
  | nil => rfl
  | cons first rest ih =>
    have here := noTriple first List.mem_cons_self
    cases rest with
    | nil => rwa [List.intercalate_singleton]
    | cons second rest =>
      rw [List.intercalate_cons_cons, List.append_assoc, List.singleton_append,
        holdsTriple_append_slash, here,
        ih fun segment member => noTriple segment (List.mem_cons_of_mem first member)]
      rfl

end Slashes

/-! ## Encoding -/

section Encoding

variable {keep : Char → Bool}

theorem encode_cons (keep : Char → Bool) (c : Char) (rest : List Char) :
    encode keep (c :: rest) =
      (if keep c then [c] else (String.utf8EncodeChar c).flatMap triple) ++ encode keep rest :=
  List.flatMap_cons

theorem encode_append (keep : Char → Bool) (front back : List Char) :
    encode keep (front ++ back) = encode keep front ++ encode keep back :=
  List.flatMap_append

/-- Where slashes are kept, a path is encoded segment by segment. -/
theorem encode_intercalate (keepsSlash : keep '/' = true) (segments : List (List Char)) :
    encode keep (['/'].intercalate segments) =
      ['/'].intercalate (segments.map (encode keep)) := by
  induction segments with
  | nil => rfl
  | cons first rest ih =>
    cases rest with
    | nil => rw [List.map_singleton, List.intercalate_singleton, List.intercalate_singleton]
    | cons second rest =>
      have slash : encode keep ['/'] = ['/'] := encode_of_kept (by simpa using keepsSlash)
      rw [List.intercalate_cons_cons, encode_append, encode_append, ih, slash]
      exact List.intercalate_cons_cons.symm

/-- Behind a character, a code starts with that character or with a mark. -/
theorem encode_eq_cons_cases {cs code : List Char} {d : Char}
    (encoded : encode keep cs = d :: code) :
    (∃ rest, cs = d :: rest ∧ encode keep rest = code) ∨ d = '%' := by
  cases cs with
  | nil => cases encoded
  | cons c rest =>
    rw [encode_cons] at encoded
    split at encoded
    · obtain ⟨rfl, same⟩ := List.cons.inj encoded
      exact .inl ⟨rest, rfl, same⟩
    · obtain ⟨b, bytes, split⟩ := List.exists_cons_of_ne_nil (String.utf8EncodeChar_ne_nil (c := c))
      rw [split] at encoded
      exact .inr (List.cons.inj encoded).1.symm

/-- **A mark that is kept opens no triple in the code if it opens none in the text.** -/
theorem decodeBytes_mark_encode {rest : List Char} (closed : opensTriple ('%' :: rest) = false) :
    decodeBytes ('%' :: encode keep rest) = String.utf8EncodeChar '%' ++ decodeBytes (encode keep rest) := by
  have noDigit : Numeral.digit? '%' = none := by decide
  match code : encode keep rest with
  | [] => exact decodeBytes_cons fun _ _ _ _ few => by cases few
  | [_] => exact decodeBytes_cons fun _ _ _ _ few => by cases few
  | high :: low :: more =>
    refine decodeBytes_mark ?_ more
    rcases encode_eq_cons_cases code with ⟨behind, rfl, codeBehind⟩ | rfl
    · rcases encode_eq_cons_cases codeBehind with ⟨others, rfl, -⟩ | rfl
      · rw [opensTriple, Bool.and_eq_false_iff, Option.isSome_eq_false_iff,
          Option.isSome_eq_false_iff, Option.isNone_iff_eq_none, Option.isNone_iff_eq_none] at closed
        exact closed
      · exact .inr noDigit
    · exact .inl noDigit

/-- The bytes of an encoded text without triples are those of the text. -/
theorem decodeBytes_encode {cs : List Char} (noTriple : holdsTriple cs = false) :
    decodeBytes (encode keep cs) = cs.flatMap String.utf8EncodeChar := by
  induction cs with
  | nil => exact decodeBytes_nil
  | cons c rest ih =>
    obtain ⟨closed, others⟩ := Bool.or_eq_false_iff.mp noTriple
    have behind := ih others
    rw [encode_cons, List.flatMap_cons, ← behind]
    cases keep c with
    | true =>
      rw [if_pos rfl, List.singleton_append]
      by_cases mark : c = '%'
      · subst mark
        exact decodeBytes_mark_encode closed
      · exact decodeBytes_cons fun _ _ _ isMark _ => mark isMark
    | false =>
      have triples : List.Forall₂ IsTriple (String.utf8EncodeChar c)
          ((String.utf8EncodeChar c).map triple) :=
        List.forall₂_map_right_iff.mpr (List.forall₂_same.mpr fun b _ => isTriple_triple b)
      rw [if_neg Bool.false_ne_true, List.flatMap_def]
      exact decodeBytes_triples triples _

/-- **A text without triples is encoded and decoded to itself.** -/
theorem decode?_encode {cs : List Char} (noTriple : holdsTriple cs = false) :
    decode? (String.ofList (encode keep cs)) = some (String.ofList cs) := by
  rw [decode?, String.toList_ofList, decodeBytes_encode noTriple, fromUTF8?_flatMap]

end Encoding

end Docsite.Text.Percent
