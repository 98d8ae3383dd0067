/-
**Segments that stay as they are.**

Reading a path encodes the characters of its pieces and resolves the pieces that are dots. Nothing of
this happens again to what is left: the segments of a path, written behind slashes and read once more,
are the same segments.

* `IsKept`: the segments that reading leaves as they are.
* `resolve_isKept`: only such segments are left.
* `readPath_chars`: such segments are read back.
-/

import Mathlib.Data.List.TakeWhile
import Docsite.Url.Segments

namespace Docsite.Url

/-! ## Encoded pieces -/

section Encoding

/-- The digits of a percent triple are kept and are no slashes. -/
theorem hexDigit_plain : ∀ n < 16, keepsInPath (Text.Percent.hexDigit n) = true ∧
    isPathSlash .web (Text.Percent.hexDigit n) = false := by
  decide

theorem triple_plain (b : UInt8) : ∀ c ∈ Text.Percent.triple b,
    keepsInPath c = true ∧ isPathSlash .web c = false := by
  have byte : b.toNat < 256 := b.toNat_lt
  rw [Text.Percent.triple]
  simp only [List.forall_mem_cons]
  refine ⟨by decide, hexDigit_plain _ (by omega), hexDigit_plain _ (by omega), ?_⟩
  exact List.forall_mem_nil _

/-- **An encoded piece holds no character that is encoded, and no slash unless the piece does.** -/
theorem encode_plain {piece : List Char} (noSlash : ∀ c ∈ piece, isPathSlash .web c = false) :
    ∀ c ∈ Text.Percent.encode keepsInPath piece,
      keepsInPath c = true ∧ isPathSlash .web c = false := by
  intro c member
  obtain ⟨d, inPiece, inCode⟩ := List.mem_flatMap.mp member
  split at inCode
  · next keeps =>
    obtain rfl := List.mem_singleton.mp inCode
    exact ⟨keeps, noSlash c inPiece⟩
  · obtain ⟨b, -, inTriple⟩ := List.mem_flatMap.mp inCode
    exact triple_plain b c inTriple

/-- The byte whose triple is that of a dot. -/
theorem eq_dot_of_triple {b : UInt8} {e : Char} {rest more : List Char} (isE : e = 'e' ∨ e = 'E')
    (spelled : Text.Percent.triple b ++ rest = '%' :: '2' :: e :: more) : b = 0x2E := by
  have high : ∀ n < 16, Text.Percent.hexDigit n = '2' → n = 2 := by decide
  have low : ∀ n < 16, Text.Percent.hexDigit n = 'e' ∨ Text.Percent.hexDigit n = 'E' → n = 14 := by
    decide
  have byte : b.toNat < 256 := b.toNat_lt
  simp only [Text.Percent.triple, List.cons_append, List.cons.injEq, true_and] at spelled
  obtain ⟨isHigh, isLow, -⟩ := spelled
  rw [← isLow] at isE
  have first := high _ (by omega) isHigh
  have second := low _ (by omega) isE
  rw [← UInt8.toNat_inj]
  show b.toNat = 0x2E
  omega

/-- The dot is the one character whose bytes begin with the byte of a dot. -/
theorem eq_dot_of_utf8 {c : Char} {bytes : List UInt8}
    (encoded : String.utf8EncodeChar c = 0x2E :: bytes) : c = '.' := by
  have value : c.val.toNat = 0x2E := by
    unfold String.utf8EncodeChar at encoded
    dsimp only at encoded
    generalize c.val.toNat = v at *
    split_ifs at encoded
    all_goals
      have first := congrArg UInt8.toNat (List.cons.inj encoded).1
      have dot : UInt8.toNat 0x2E = 0x2E := rfl
      rw [UInt8.toNat_ofNat', dot] at first
      omega
  exact Char.ext (UInt32.toNat_inj.mp value)

/-- The code of a character that is kept is the character. -/
theorem encode_cons_kept {c : Char} {rest : List Char} (kept : keepsInPath c = true) :
    Text.Percent.encode keepsInPath (c :: rest) = c :: Text.Percent.encode keepsInPath rest := by
  rw [Text.Percent.encode, List.flatMap_cons, if_pos kept]
  rfl

/-- The code of any other character begins with the triple of its first byte. -/
theorem encode_cons_triple {c : Char} (notKept : ¬ keepsInPath c = true) (rest : List Char) :
    ∃ b bytes more, String.utf8EncodeChar c = b :: bytes ∧
      Text.Percent.encode keepsInPath (c :: rest) = Text.Percent.triple b ++ more := by
  match encoded : String.utf8EncodeChar c with
  | [] => exact absurd encoded String.utf8EncodeChar_ne_nil
  | b :: bytes =>
    refine ⟨b, bytes, bytes.flatMap Text.Percent.triple ++ Text.Percent.encode keepsInPath rest,
      rfl, ?_⟩
    rw [Text.Percent.encode, List.flatMap_cons, if_neg notKept, encoded, List.flatMap_cons,
      List.append_assoc]
    rfl

/-- A text whose code begins with a character that opens no triple begins with that character. -/
theorem encode_eq_cons {cs ds : List Char} {d : Char} (noMark : d ≠ '%')
    (encoded : Text.Percent.encode keepsInPath cs = d :: ds) :
    ∃ rest, cs = d :: rest ∧ Text.Percent.encode keepsInPath rest = ds := by
  cases cs with
  | nil => cases encoded
  | cons c rest =>
    by_cases kept : keepsInPath c = true
    · rw [encode_cons_kept kept] at encoded
      obtain ⟨rfl, same⟩ := List.cons.inj encoded
      exact ⟨rest, rfl, same⟩
    · obtain ⟨b, -, more, -, triple⟩ := encode_cons_triple kept rest
      rw [triple] at encoded
      exact absurd (List.cons.inj encoded).1.symm noMark

/-- A text whose code begins with the triple of a dot begins with that triple. -/
theorem encode_eq_triple {cs ds : List Char} {e : Char} (isE : e = 'e' ∨ e = 'E')
    (encoded : Text.Percent.encode keepsInPath cs = '%' :: '2' :: e :: ds) :
    ∃ rest, cs = '%' :: '2' :: e :: rest ∧ Text.Percent.encode keepsInPath rest = ds := by
  have noMark : e ≠ '%' := by
    rcases isE with rfl | rfl <;> decide
  cases cs with
  | nil => cases encoded
  | cons c rest =>
    by_cases kept : keepsInPath c = true
    · rw [encode_cons_kept kept] at encoded
      obtain ⟨rfl, behindMark⟩ := List.cons.inj encoded
      obtain ⟨second, rfl, behindTwo⟩ := encode_eq_cons (by decide) behindMark
      obtain ⟨third, rfl, behindE⟩ := encode_eq_cons noMark behindTwo
      exact ⟨third, rfl, behindE⟩
    -- No other character has a dot among its bytes.
    · obtain ⟨b, bytes, more, utf8, triple⟩ := encode_cons_triple kept rest
      rw [triple] at encoded
      obtain rfl := eq_dot_of_triple isE encoded
      obtain rfl := eq_dot_of_utf8 utf8
      exact absurd (by decide) kept

theorem encode_eq_nil {cs : List Char} (encoded : Text.Percent.encode keepsInPath cs = []) :
    cs = [] := by
  cases cs with
  | nil => rfl
  | cons c rest =>
    by_cases kept : keepsInPath c = true
    · rw [encode_cons_kept kept] at encoded
      cases encoded
    · obtain ⟨b, -, more, -, triple⟩ := encode_cons_triple kept rest
      rw [triple] at encoded
      cases encoded

/-- **A piece whose code is dots is that many dots itself.** -/
theorem dotCount?_of_encode {piece : List Char} {n : Nat}
    (dots : dotCount? (Text.Percent.encode keepsInPath piece) = some n) :
    dotCount? piece = some n := by
  generalize encoded : Text.Percent.encode keepsInPath piece = code at dots
  fun_induction dotCount? code generalizing piece n with
  | case1 =>
    obtain rfl := encode_eq_nil encoded
    exact dots
  | case2 rest ih =>
    obtain ⟨more, rfl, same⟩ := encode_eq_cons (by decide) encoded
    obtain ⟨count, counted, rfl⟩ := Option.map_eq_some_iff.mp dots
    rw [dotCount?, ih same counted]
    rfl
  | case3 e rest isE ih =>
    have spelled : e = 'e' ∨ e = 'E' := by simpa using isE
    obtain ⟨more, rfl, same⟩ := encode_eq_triple spelled encoded
    obtain ⟨count, counted, rfl⟩ := Option.map_eq_some_iff.mp dots
    rw [dotCount?, if_pos isE, ih same counted]
    rfl
  | case4 => cases dots
  | case5 => cases dots

end Encoding

/-! ## Kept segments -/

/-- A segment that reading a path leaves as it is. -/
structure IsKept (segment : Segment) : Prop where
  plain : ∀ c ∈ segment, keepsInPath c = true
  noSlash : ∀ c ∈ segment, isPathSlash .web c = false
  notCurrent : dotCount? segment ≠ some 1
  notParent : dotCount? segment ≠ some 2

theorem isKept_nil : IsKept [] where
  plain _ member := absurd member List.not_mem_nil
  noSlash _ member := absurd member List.not_mem_nil
  notCurrent := by decide
  notParent := by decide

section Resolving

variable {start : List Segment} {piece : List Char}

/-- What is kept of a piece that is no dots is a kept segment. -/
theorem isKept_keptPiece (noSlash : ∀ c ∈ piece, isPathSlash .web c = false)
    (notCurrent : dotCount? piece ≠ some 1) (notParent : dotCount? piece ≠ some 2) :
    IsKept (keptPiece .web start piece) where
  plain c member := (encode_plain noSlash c member).1
  noSlash c member := (encode_plain noSlash c member).2
  notCurrent dots := notCurrent (dotCount?_of_encode dots)
  notParent dots := notParent (dotCount?_of_encode dots)

theorem IsKept.keptPiece_eq (kept : IsKept piece) : keptPiece .web start piece = piece :=
  Text.Percent.encode_of_kept kept.plain

theorem shorten_subset (start : List Segment) : shorten start ⊆ start := by
  rw [shorten]
  split
  · exact List.Subset.refl start
  · exact List.dropLast_subset start

/-- A piece is read with a slash behind it as it is read without, but for an empty segment. -/
theorem closePiece_eq (kind : SchemeKind) (start : List Segment) (piece : List Char) :
    closePiece kind start piece = pushPiece kind start piece ∨
      closePiece kind start piece = pushPiece kind start piece ++ [[]] := by
  unfold closePiece pushPiece
  split
  · exact .inr rfl
  · exact .inr rfl
  · exact .inl rfl

theorem pushPiece_isKept (noSlash : ∀ c ∈ piece, isPathSlash .web c = false)
    (kept : ∀ segment ∈ start, IsKept segment) :
    ∀ segment ∈ pushPiece .web start piece, IsKept segment := by
  unfold pushPiece
  split
  · exact kept
  · exact fun segment member => kept segment (shorten_subset start member)
  · next notCurrent notParent =>
    intro segment member
    rcases List.mem_append.mp member with inStart | isPiece
    · exact kept segment inStart
    · obtain rfl := List.mem_singleton.mp isPiece
      exact isKept_keptPiece noSlash notCurrent notParent

theorem closePiece_isKept (noSlash : ∀ c ∈ piece, isPathSlash .web c = false)
    (kept : ∀ segment ∈ start, IsKept segment) :
    ∀ segment ∈ closePiece .web start piece, IsKept segment := by
  have pushed := pushPiece_isKept noSlash kept
  rcases closePiece_eq .web start piece with same | same
  · rw [same]
    exact pushed
  · rw [same]
    intro segment member
    rcases List.mem_append.mp member with inPushed | isEmpty
    · exact pushed segment inPushed
    · obtain rfl := List.mem_singleton.mp isEmpty
      exact isKept_nil

/-- **Only kept segments are left of pieces without slashes.** -/
theorem resolve_isKept {pieces : List (List Char)}
    (noSlash : ∀ piece ∈ pieces, ∀ c ∈ piece, isPathSlash .web c = false)
    (kept : ∀ segment ∈ start, IsKept segment) :
    ∀ segment ∈ resolve .web start pieces, IsKept segment := by
  fun_induction resolve .web start pieces with
  | case1 => exact kept
  | case2 start last => exact closePiece_isKept (noSlash last List.mem_cons_self) kept
  | case3 start piece more _ ih =>
    refine ih (fun other member => noSlash other (List.mem_cons_of_mem piece member)) ?_
    exact pushPiece_isKept (noSlash piece List.mem_cons_self) kept

theorem closePiece_ne_nil (kind : SchemeKind) (start : List Segment) (piece : List Char) :
    closePiece kind start piece ≠ [] := by
  unfold closePiece
  split <;> exact List.append_ne_nil_of_right_ne_nil _ (List.cons_ne_nil _ _)

/-- Something is left of every path, if only an empty segment. -/
theorem resolve_ne_nil {kind : SchemeKind} {pieces : List (List Char)} (some : pieces ≠ []) :
    resolve kind start pieces ≠ [] := by
  fun_induction resolve kind start pieces with
  | case1 => exact absurd rfl some
  | case2 start last => exact closePiece_ne_nil kind start last
  | case3 start piece more others ih => exact ih others

theorem IsKept.pushPiece_eq (kept : IsKept piece) : pushPiece .web start piece = start ++ [piece] := by
  unfold pushPiece
  split
  · next current => exact absurd current kept.notCurrent
  · next parent => exact absurd parent kept.notParent
  · rw [kept.keptPiece_eq]

theorem IsKept.closePiece_eq (kept : IsKept piece) :
    closePiece .web start piece = start ++ [piece] := by
  unfold closePiece
  split
  · next current => exact absurd current kept.notCurrent
  · next parent => exact absurd parent kept.notParent
  · rw [kept.keptPiece_eq]

/-- **Kept segments are read as themselves.** -/
theorem resolve_kept {segments : List Segment} (kept : ∀ segment ∈ segments, IsKept segment) :
    resolve .web start segments = start ++ segments := by
  fun_induction resolve .web start segments with
  | case1 => exact (List.append_nil _).symm
  | case2 start last => exact (kept last List.mem_cons_self).closePiece_eq
  | case3 start piece more _ ih =>
    rw [ih fun other member => kept other (List.mem_cons_of_mem piece member),
      (kept piece List.mem_cons_self).pushPiece_eq, List.append_assoc]
    rfl

end Resolving

/-! ## Paths -/

/-- A path is cut at its slashes. -/
theorem pathPieces_eq (kind : SchemeKind) (input : List Char) :
    pathPieces kind input = input.splitOnP (isPathSlash kind) := by
  induction input with
  | nil => rfl
  | cons c rest ih =>
    rw [pathPieces, ih, List.splitOnP_cons_eq_if_modifyHead]
    split
    · rfl
    · match found : rest.splitOnP (isPathSlash kind) with
      | [] => exact absurd found (List.splitOnP_ne_nil _ rest)
      | piece :: pieces => rfl

theorem noSlash_of_mem_pathPieces {kind : SchemeKind} {input piece : List Char}
    (member : piece ∈ pathPieces kind input) : ∀ c ∈ piece, isPathSlash kind c = false := by
  induction input generalizing piece with
  | nil =>
    obtain rfl := List.mem_singleton.mp member
    exact fun c inPiece => absurd inPiece List.not_mem_nil
  | cons c rest ih =>
    rw [pathPieces] at member
    split at member
    · rcases List.mem_cons.mp member with rfl | member
      · exact fun d inPiece => absurd inPiece List.not_mem_nil
      · exact ih member
    · next noSlash =>
      have isNone : isPathSlash kind c = false := Bool.eq_false_iff.mpr noSlash
      match found : pathPieces kind rest with
      | [] =>
        rw [found] at member
        obtain rfl := List.mem_singleton.mp member
        exact List.forall_mem_singleton.mpr isNone
      | first :: others =>
        rw [found] at member ih
        rcases List.mem_cons.mp member with rfl | member
        · exact List.forall_mem_cons.mpr ⟨isNone, ih List.mem_cons_self⟩
        · exact ih (List.mem_cons_of_mem first member)

/-- **Reading a path leaves kept segments, at least one.** -/
theorem readPath_isKept (input : List Char) :
    ∃ segments, readPath .web [] input = .segments segments ∧ segments ≠ [] ∧
      ∀ segment ∈ segments, IsKept segment := by
  refine ⟨_, rfl, ?_, ?_⟩
  · refine resolve_ne_nil ?_
    rw [pathPieces_eq]
    exact List.splitOnP_ne_nil _ _
  · exact resolve_isKept (fun piece => noSlash_of_mem_pathPieces)
      fun segment member => absurd member List.not_mem_nil

/-- A character that is kept in paths ends no path. -/
theorem endsPath_eq_false {c : Char} (plain : keepsInPath c = true) : endsPath c = false := by
  rw [Bool.eq_false_iff]
  intro ends
  rw [endsPath, Bool.or_eq_true, beq_iff_eq, beq_iff_eq] at ends
  rcases ends with rfl | rfl <;> exact absurd plain (by decide)

/-- Kept segments and the slashes between them are kept in paths. -/
theorem chars_plain {segments : List Segment} (kept : ∀ segment ∈ segments, IsKept segment) :
    ∀ c ∈ segments.flatMap ('/' :: ·), keepsInPath c = true := by
  intro c member
  obtain ⟨segment, isSegment, inSegment⟩ := List.mem_flatMap.mp member
  rcases List.mem_cons.mp inSegment with rfl | inSegment
  · decide
  · exact (kept segment isSegment).plain c inSegment

/-- The pieces of kept segments with slashes between them are these segments. -/
theorem pathPieces_joined {first : Segment} {rest : List Segment}
    (kept : ∀ segment ∈ first :: rest, IsKept segment) :
    pathPieces .web (first ++ rest.flatMap ('/' :: ·)) = first :: rest := by
  rw [pathPieces_eq]
  induction rest generalizing first with
  | nil =>
    rw [List.flatMap_nil, List.append_nil]
    exact List.splitOnP_eq_singleton (kept first List.mem_cons_self).noSlash
  | cons second rest ih =>
    rw [List.flatMap_cons, List.cons_append, List.splitOnP_append_cons_of_forall_mem
      (kept first List.mem_cons_self).noSlash '/' rfl, ih]
    exact fun segment member => kept segment (List.mem_cons_of_mem first member)

/-- **Kept segments are read back.** -/
theorem readPath_chars {first : Segment} {rest : List Segment}
    (kept : ∀ segment ∈ first :: rest, IsKept segment) :
    readPath .web [] (first ++ rest.flatMap ('/' :: ·)) = .segments (first :: rest) := by
  have stays : ∀ c ∈ first ++ rest.flatMap ('/' :: ·), (!endsPath c) = true := by
    intro c member
    rw [endsPath_eq_false (chars_plain kept c (List.mem_cons_of_mem '/' member))]
    rfl
  rw [readPath, List.takeWhile_eq_self_iff.mpr stays, pathPieces_joined kept, resolve_kept kept]
  rfl

end Docsite.Url
