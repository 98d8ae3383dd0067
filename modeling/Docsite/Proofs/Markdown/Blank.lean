/-
**Blank lines in front of a text.**

Outside of all containers a blank line opens nothing and belongs to nothing. So white space in front of
a text moves its links further on and changes nothing else, as long as the text starts a line: behind
white space on the same line it might be code.

* `Flush`: white space that a text can have in front of it.
* `blocks_blank_append`: the blocks of lines behind blank lines.
* `extract_space_append`: the links of a page behind white space.
-/

import Docsite.Proofs.Markdown.Lines
import Docsite.Proofs.Markdown.Positions

namespace Docsite.Markdown

/-! ## Lines behind white space -/

/-- A line of white space is blank. -/
theorem isBlankLine_of_plain {chars : List Char} (plain : Line.IsPlain chars)
    (isSpace : ∀ c ∈ chars, isSpace c = true) : isBlankLine chars = true := by
  refine List.all_eq_true.mpr fun c member => ?_
  simpa [Markdown.isSpace, plain c member] using isSpace c member

/-- White space in front of a text that starts a line, if there is any text. -/
structure Flush (space text : List Char) : Prop where
  isSpace : ∀ c ∈ space, isSpace c = true
  starts : ∀ c ∈ text.head?, Text.isBlank c = false
  endsLine : text = [] ∨ space = [] ∨ ∃ c ∈ space.getLast?, isLineEnd c = true

/-- What is white space in Markdown is white space anywhere. -/
theorem isBlank_of_isSpace {c : Char} (isSpace : isSpace c = true) : Text.isBlank c = true := by
  simp only [Markdown.isSpace, isLineSpace, isLineEnd, Bool.or_eq_true, beq_iff_eq] at isSpace
  rcases isSpace with (((rfl | rfl) | rfl) | rfl) | rfl | rfl <;> decide

namespace Flush

variable {space text chars ending rest : List Char}

theorem head_ne_feed (flush : Flush space text) : text.head? ≠ some '\n' := by
  intro isFeed
  exact absurd (flush.starts '\n' isFeed) (by decide)

theorem behindLine (flush : Flush (chars ++ ending ++ rest) text) : Flush rest text where
  isSpace c member := flush.isSpace c (List.mem_append_right _ member)
  starts := flush.starts
  endsLine := by
    by_cases empty : rest = []
    · exact .inr (.inl empty)
    · refine flush.endsLine.imp_right (Or.imp (fun isNil => ?_) fun ends => ?_)
      · exact (List.append_eq_nil_iff.mp isNil).2
      · rwa [List.getLast?_append, Option.or_of_isSome (List.getLast?_isSome.mpr empty)] at ends

theorem endsBefore_append (flush : Flush space text) (ends : Line.EndsBefore ending space) :
    Line.EndsBefore ending (space ++ text) := by
  cases ends with
  | pair => exact .pair
  | feed => exact .feed
  | single notFeed =>
    refine .single fun isFeed => ?_
    cases space with
    | nil => exact flush.head_ne_feed isFeed
    | cons c space => exact notFeed isFeed

/-- **White space in front of a text is read as blank lines.** -/
theorem exists_blanks (flush : Flush space text) (start : Nat) :
    ∃ blanks : List Line, (∀ line ∈ blanks, isBlankLine line.chars = true) ∧
      Line.splitFrom start (space ++ text) =
        blanks ++ Line.splitFrom (start + space.length) text := by
  induction space using Line.byLines generalizing start with
  | nil => exact ⟨[], nofun, rfl⟩
  | last chars plain nonempty =>
    have blank := isBlankLine_of_plain plain flush.isSpace
    rcases flush.endsLine with rfl | isNil | ⟨c, isLast, isEnd⟩
    · refine ⟨[{ start, chars, ending := [] }], fun line member => ?_, ?_⟩
      · exact List.mem_singleton.mp member ▸ blank
      · rw [List.append_nil, Line.splitFrom_last plain nonempty]
        rfl
    · exact absurd isNil nonempty
    · rw [plain c (List.mem_of_getLast? isLast)] at isEnd
      cases isEnd
  | line chars ending rest plain ends ih =>
    obtain ⟨blanks, blank, lines⟩ := ih flush.behindLine (start + chars.length + ending.length)
    refine ⟨{ start, chars, ending } :: blanks, fun line member => ?_, ?_⟩
    · rcases List.mem_cons.mp member with rfl | member
      · exact isBlankLine_of_plain plain fun c member =>
          flush.isSpace c (List.mem_append_left _ (List.mem_append_left _ member))
      · exact blank line member
    · rw [List.append_assoc, Line.splitFrom_line plain (flush.behindLine.endsBefore_append ends),
        lines, List.length_append, List.length_append, ← Nat.add_assoc, ← Nat.add_assoc]
      rfl

end Flush

/-! ## Blank lines -/

section BlankLines

variable {cs : List Char} {wanted column : Nat}

theorem isBlankLine_cons {c : Char} :
    isBlankLine (c :: cs) = true ↔ isLineSpace c = true ∧ isBlankLine cs = true := by
  rw [isBlankLine, List.all_cons, Bool.and_eq_true, ← isBlankLine]

theorem isBlankLine_skipFrom (blank : isBlankLine cs = true) :
    isBlankLine (Cursor.skipFrom wanted column cs).2.rest = true := by
  fun_induction Cursor.skipFrom wanted column cs with
  | case1 | case3 | case6 => exact blank
  | case4 => exact (isBlankLine_cons.mp blank).2
  | case2 _ _ _ _ ih | case5 _ _ _ _ _ _ ih => exact ih (isBlankLine_cons.mp blank).2

/-- A blank line opens nothing. -/
theorem openAll_blank {fuel : Nat} {containers : List Container} {notes : List (List Char)}
    (blank : isBlankLine cs = true) :
    openAll fuel containers notes { rest := cs } =
      { containers, notes, cursor := { rest := cs }, endsInEmptyItem := false } := by
  cases fuel with
  | zero => rfl
  | succ fuel =>
    have left : isBlankLine (Cursor.skip 4 { rest := cs }).2.rest = true := isBlankLine_skipFrom blank
    unfold openAll
    dsimp only
    split
    · rfl
    · generalize (Cursor.skip 4 { rest := cs }).2 = start at left ⊢
      obtain ⟨rest, column, spare⟩ := start
      cases rest with
      | nil => rfl
      | cons c rest =>
        have isSpace : isLineSpace c = true := (isBlankLine_cons.mp left).1
        simp only [isLineSpace, Bool.or_eq_true, beq_iff_eq] at isSpace
        rcases isSpace with ((rfl | rfl) | rfl) | rfl <;> rfl

/-- **Blank lines outside of all containers hold no blocks.** -/
theorem blocksFrom_blank {fuel : Nat} {line : Line} {following : List Line}
    (blank : isBlankLine line.chars = true) :
    blocksFrom (fuel + 1) [] false (line :: following) = blocksFrom fuel [] false following := by
  rw [blocksFrom, enterAll]
  dsimp only
  rw [List.take_nil, openAll_blank blank]
  dsimp only
  rw [if_neg Bool.false_ne_true, if_pos blank, if_neg Bool.false_ne_true]
  rfl

theorem blocks_blank_append {blanks lines : List Line}
    (blank : ∀ line ∈ blanks, isBlankLine line.chars = true) :
    blocks (blanks ++ lines) = blocks lines := by
  induction blanks with
  | nil => rfl
  | cons line blanks ih =>
    rw [← ih fun other member => blank other (List.mem_cons_of_mem line member)]
    exact blocksFrom_blank (blank line List.mem_cons_self)

end BlankLines

end Docsite.Markdown

namespace Docsite.MarkdownLink

open Markdown (Flush)

section Texts

variable {space text : List Char}

/-- **A text behind white space has the links of the text, further on.** -/
theorem found_space_append (flush : Flush space text) :
    found (space ++ text) = (found text).map (Markdown.Inline.shiftLink space.length) := by
  obtain ⟨blanks, blank, lines⟩ := flush.exists_blanks 0
  refine found_of_blocks_shift ?_
  rw [Markdown.Line.split, lines, Markdown.blocks_blank_append blank, Markdown.Line.splitFrom_add,
    Markdown.blocks_shift]
  rfl

/-- **White space in front of a page only adds its lines to those of the links.** -/
theorem extract_space_append {page body : String} (flush : Flush space body.toList)
    (split : page.toList = space ++ body.toList) (offset : Nat) :
    extract page offset = extract body (space.count '\n' + offset) := by
  unfold extract
  rw [split, found_space_append flush, List.map_map]
  refine List.map_congr_left fun (target, position) _ => ?_
  have line : (lineFeeds (space ++ body.toList)).countP (· < position + space.length) + 1 + offset =
      (lineFeeds body.toList).countP (· < position) + 1 + (space.count '\n' + offset) := by
    rw [countP_lineFeeds_append]
    omega
  exact congrArg (MarkdownLink.mk target) line

end Texts

end Docsite.MarkdownLink
