/-
**Pages with frontmatter in front.**

Where no line of a block starts with the mark, the block ends where it was meant to. What is left of the
page is the body, but without the white space in front of it.

* `Frontmatter.front`: a block between two marks.
* `split_framed`: how a page with a block in front is split.
-/

import Docsite.Proofs.Frontmatter.Framing

namespace Docsite.Frontmatter

/-- A block between two marks, each on a line of its own. -/
def front (block : String) : String :=
  "---\n" ++ block ++ "\n---\n"

/-- No line of a block starts with the mark. -/
def IsUnmarked (block : String) : Prop :=
  ∀ line ∈ Text.splitOn '\n' block.toList, ¬ mark <+: line

instance {block : String} : Decidable (IsUnmarked block) :=
  inferInstanceAs (Decidable (∀ line ∈ Text.splitOn '\n' block.toList, ¬ mark <+: line))

section Framed

variable {block body : String}

theorem toList_framed (block body : String) :
    (front block ++ body).toList =
      mark ++ ('\n' :: block.toList ++ '\n' :: mark ++ '\n' :: body.toList) := by
  rw [front]
  simp [mark]

theorem IsUnmarked.not_front (unmarked : IsUnmarked block) {before line : List Char}
    (inBlock : '\n' :: block.toList = before ++ '\n' :: line) : ¬ mark <+: line := by
  rintro ⟨rest, rfl⟩
  obtain ⟨piece, pieces, pieced⟩ := Text.splitOn_append (show '\n' ∉ mark by decide) rest
  have isFirst : mark ++ piece ∈ Text.splitOn '\n' (mark ++ rest) := pieced ▸ List.mem_cons_self
  refine unmarked (mark ++ piece) ?_ (List.prefix_append mark piece)
  cases before with
  | nil => exact (List.cons.inj inBlock).2 ▸ isFirst
  | cons c before =>
    have behind : block.toList = before ++ '\n' :: (mark ++ rest) := (List.cons.inj inBlock).2
    rw [behind, Text.splitOn_append_sep]
    exact List.mem_append_right _ isFirst

/-- Behind the end of a line, the mark does not stand in an unmarked block, nor partly behind it. -/
theorem IsUnmarked.not_front_append (unmarked : IsUnmarked block) {before line rest : List Char}
    (inBlock : '\n' :: block.toList = before ++ '\n' :: line) :
    ¬ mark <+: line ++ '\n' :: rest := by
  rintro ⟨after, spelled⟩
  rcases List.append_eq_append_iff.mp spelled with ⟨more, isLine, -⟩ | ⟨missing, isMark, isRest⟩
  · exact unmarked.not_front inBlock ⟨more, isLine.symm⟩
  · cases missing with
    | nil =>
      rw [List.append_nil] at isMark
      exact unmarked.not_front inBlock (isMark ▸ List.prefix_rfl)
    | cons c missing =>
      obtain ⟨rfl, -⟩ := List.cons.inj isRest
      have inMark : '\n' ∈ mark := isMark ▸ List.mem_append_right line List.mem_cons_self
      exact absurd inMark (by decide)

/-- **An unmarked block ends at the mark behind it.** -/
theorem IsUnmarked.firstAt (unmarked : IsUnmarked block) (rest : List Char) :
    Text.FirstAt ('\n' :: mark) ('\n' :: block.toList ++ '\n' :: mark ++ rest) ('\n' :: block.toList)
      rest := by
  refine ⟨rfl, fun before after spelled => ?_⟩
  -- Any place further in front would be the start of a line of the block.
  rw [List.append_assoc, List.append_assoc] at spelled
  rcases List.append_eq_append_iff.mp spelled with ⟨more, rfl, -⟩ | ⟨line, inBlock, isMark⟩
  · rw [List.length_append]
    exact Nat.le_add_right _ _
  · cases line with
    | nil => rw [inBlock, List.append_nil]
    | cons c line =>
      obtain ⟨rfl, behind⟩ := List.cons.inj isMark
      have isFront : mark ++ after = line ++ '\n' :: (mark ++ rest) := behind
      exact absurd ⟨after, isFront⟩ (unmarked.not_front_append inBlock)

/-- **A page with a block in front** is split behind the block, whatever white space stands in front of
it, and the white space in front of its body is lost. -/
theorem split_front (space body : String) (isSpace : Text.isBlankText space = true)
    (unmarked : IsUnmarked block) :
    split (space ++ front block ++ body) =
      match ofBlock? (Text.trim block) with
      | none => .error .invalidYaml
      | some frontmatter => .ok (some frontmatter, Text.trimStart body) := by
  have opens : Opens (space ++ front block ++ body)
      ('\n' :: block.toList ++ '\n' :: mark ++ '\n' :: body.toList) := by
    refine ⟨space.toList, fun c member => List.all_eq_true.mp isSpace c member, ?_⟩
    rw [String.append_assoc, String.toList_append, toList_framed, ← List.append_assoc]
  have isBlock : Text.trim (String.ofList ('\n' :: block.toList)) = Text.trim block := by
    rw [Text.trim, Text.trim, String.toList_ofList, Text.dropBothWhile, Text.dropBothWhile,
      List.dropWhile_cons_of_pos (by decide)]
  have isBody : Text.trimStart (String.ofList ('\n' :: body.toList)) = Text.trimStart body := by
    rw [Text.trimStart, Text.trimStart, String.toList_ofList, List.dropWhile_cons_of_pos (by decide)]
  cases reads : ofBlock? (Text.trim block) <;>
    simp only [split, opens_iff.mp opens, Text.cutAt?_eq_some.mpr (unmarked.firstAt _), isBlock, isBody,
      reads]

/-- A page that starts with a block that can be read. -/
theorem split_framed (unmarked : IsUnmarked block) {frontmatter : Frontmatter}
    (reads : ofBlock? (Text.trim block) = some frontmatter) :
    split (front block ++ body) = .ok (some frontmatter, Text.trimStart body) := by
  have splits := split_front "" body rfl unmarked
  rwa [String.empty_append, reads] at splits

end Framed

end Docsite.Frontmatter
