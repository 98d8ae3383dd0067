/-
**Moving lines.**

Blocks are read from the characters of lines. How many characters stand before a line matters only for
where the text of a block is said to be. So lines that stand further on have the same blocks, further on.

* `Line.shift`, `Block.shift`: a line and a block that stand further on.
* `blocks_shift`: the blocks of lines that stand further on.
-/

import Mathlib.Tactic.SplitIfs
import Docsite.Markdown.Block

namespace Docsite.Markdown

/-! ## Lines -/

namespace Line

/-- A line with some more characters of the text before it. It is an abbreviation, so that what a reader
asks of a line is plainly the same of the line further on. -/
abbrev shift (distance : Nat) (line : Line) : Line :=
  { line with start := line.start + distance }

@[simp] theorem behind_shift {distance : Nat} {line : Line} {rest : List Char} :
    (line.shift distance).behind rest = (line.behind rest).shift distance := by
  simp only [behind, shift, Line.mk.injEq, and_true]
  omega

end Line

section Lines

variable {distance : Nat} {containers : List Container} {line : Line} {lines : List Line}

@[simp] theorem joinLines_shift : joinLines (lines.map (Line.shift distance)) = joinLines lines := by
  rw [joinLines, List.flatMap_map]
  rfl

@[simp] theorem enter?_shift : enter? containers (line.shift distance) = enter? containers line :=
  rfl

/-! ## Interrupting a paragraph -/

@[simp] theorem itemInterrupts_shift {inside : Bool} {cs : List Char} :
    itemInterrupts inside cs (lines.map (Line.shift distance)) = itemInterrupts inside cs lines := by
  simp only [itemInterrupts, List.head?_map, Option.map_map]
  rfl

@[simp] theorem interruptsPlainly_shift {inside : Bool} {cs : List Char} :
    interruptsPlainly inside cs (lines.map (Line.shift distance)) =
      interruptsPlainly inside cs lines := by
  simp only [interruptsPlainly, itemInterrupts_shift]

@[simp] theorem tableStart?_shift {columns : Nat} :
    tableStart? containers columns (lines.map (Line.shift distance)) =
      (tableStart? containers columns lines).map fun (columns, body) =>
        (columns, body.map (Line.shift distance)) := by
  cases lines with
  | nil => rfl
  | cons line more =>
    simp only [tableStart?, List.map_cons, enter?_shift]
    split
    · rfl
    · split <;> rfl

@[simp] theorem interrupts_shift {inside : Bool} {cs : List Char} :
    interrupts containers inside cs (lines.map (Line.shift distance)) =
      interrupts containers inside cs lines := by
  simp only [interrupts, interruptsPlainly_shift, tableStart?_shift, Option.isSome_map]

/-! ## The lines of a block -/

@[simp] theorem afterIndented_shift :
    afterIndented containers (lines.map (Line.shift distance)) =
      (afterIndented containers lines).map (Line.shift distance) := by
  induction lines with
  | nil => rfl
  | cons line more ih =>
    simp only [afterIndented, List.map_cons, enter?_shift, ih]
    split
    · split <;> rfl
    · rfl

@[simp] theorem afterFenced_shift {indent length : Nat} {mark : Char} :
    afterFenced containers indent mark length (lines.map (Line.shift distance)) =
      (afterFenced containers indent mark length lines).map (Line.shift distance) := by
  induction lines with
  | nil => rfl
  | cons line more ih =>
    simp only [afterFenced, List.map_cons, enter?_shift, ih]
    split
    · split <;> rfl
    · rfl

@[simp] theorem afterHtmlText_shift {text current : List Char} :
    afterHtmlText containers text current (lines.map (Line.shift distance)) =
      (afterHtmlText containers text current lines).map (Line.shift distance) := by
  induction lines generalizing current with
  | nil => rfl
  | cons line more ih =>
    simp only [afterHtmlText, List.map_cons, enter?_shift, ih]
    split
    · split <;> rfl
    · rfl

@[simp] theorem afterHtmlBlank_shift :
    afterHtmlBlank containers (lines.map (Line.shift distance)) =
      (afterHtmlBlank containers lines).map (Line.shift distance) := by
  induction lines with
  | nil => rfl
  | cons line more ih =>
    simp only [afterHtmlBlank, List.map_cons, enter?_shift, ih]
    split
    · split <;> rfl
    · rfl

@[simp] theorem tableRows_shift :
    tableRows containers (lines.map (Line.shift distance)) =
      (tableRows containers lines).map (List.map (Line.shift distance))
        (List.map (Line.shift distance)) := by
  induction lines with
  | nil => rfl
  | cons line more ih =>
    simp only [tableRows, List.map_cons, enter?_shift, interruptsPlainly_shift, ih, Line.behind_shift]
    split
    · split <;> rfl
    · rfl

@[simp] theorem paragraphLines_shift :
    paragraphLines containers (lines.map (Line.shift distance)) =
      (paragraphLines containers lines).map (List.map (Line.shift distance))
        (List.map (Line.shift distance)) := by
  induction lines with
  | nil => rfl
  | cons line more ih =>
    simp only [paragraphLines, List.map_cons, interrupts_shift, ih, Line.behind_shift]
    split_ifs <;> rfl

@[simp] theorem definitionLines_shift :
    definitionLines containers (lines.map (Line.shift distance)) =
      (definitionLines containers lines).map (Line.shift distance) := by
  induction lines with
  | nil => rfl
  | cons line more ih =>
    simp only [definitionLines, List.map_cons, interrupts_shift, ih, Line.behind_shift]
    split_ifs <;> rfl

end Lines

/-! ## Blocks -/

/-- A stretch with some more characters of the text before it. -/
def Stretch.shift (distance : Nat) (text : Stretch) : Stretch :=
  { text with lines := text.lines.map (Line.shift distance) }

/-- A block with some more characters of the text before it. -/
def Block.shift (distance : Nat) : Block → Block
  | .stretch text => .stretch (text.shift distance)
  | .definition label destination => .definition label destination
  | .note label => .note label

/-- Blocks, and the lines behind them, with some more characters of the text before them. -/
def shiftParsed (distance : Nat) : List Block × List Line → List Block × List Line :=
  Prod.map (List.map (Block.shift distance)) (List.map (Line.shift distance))

section Blocks

variable {distance : Nat} {containers : List Container} {first line : Line} {lines : List Line}

@[simp] theorem rowBlocks_shift {columns : Nat} :
    rowBlocks columns (line.shift distance) =
      (rowBlocks columns line).map (Block.shift distance) := by
  rw [rowBlocks, rowBlocks, List.map_map]
  refine List.map_congr_left fun (before, chars) _ => ?_
  simp only [Function.comp_apply, Block.shift, Stretch.shift, List.map_cons, List.map_nil, Line.shift]
  rw [Nat.add_right_comm]

@[simp] theorem paragraph_shift :
    paragraph containers (first.shift distance) (lines.map (Line.shift distance)) =
      shiftParsed distance (paragraph containers first lines) := by
  simp only [paragraph, tableStart?_shift]
  cases tableStart? containers (Table.headerColumns first.chars) lines with
  | none =>
    simp only [Option.map_none, paragraphLines_shift]
    rfl
  | some start =>
    obtain ⟨columns, body⟩ := start
    simp only [Option.map_some, tableRows_shift]
    simp [shiftParsed, List.map_flatMap, List.flatMap_map]

@[simp] theorem resume?_shift :
    resume? containers (lines.map (Line.shift distance)) =
      (resume? containers lines).map
        (Prod.map (Line.shift distance) (List.map (Line.shift distance))) := by
  cases lines with
  | nil => rfl
  | cons line more =>
    simp only [resume?, List.map_cons, interrupts_shift, Line.behind_shift]
    split_ifs <;> rfl

@[simp] theorem definitionsAndParagraph_shift {fuel : Nat} :
    definitionsAndParagraph containers fuel (first.shift distance)
        (lines.map (Line.shift distance)) =
      shiftParsed distance (definitionsAndParagraph containers fuel first lines) := by
  induction fuel generalizing first lines with
  | zero => exact paragraph_shift
  | succ fuel ih =>
    -- Definitions are read from the characters, which stay the same.
    have joined : joinLines (first.shift distance ::
        definitionLines containers (lines.map (Line.shift distance))) =
        joinLines (first :: definitionLines containers lines) := by
      rw [definitionLines_shift, ← List.map_cons, joinLines_shift]
    simp only [definitionsAndParagraph, joined]
    cases Definition.read? (joinLines (first :: definitionLines containers lines)) with
    | none => exact paragraph_shift
    | some definition =>
      obtain ⟨label, destination, rest⟩ := definition
      simp only [definitionLines_shift, List.length_cons, List.length_map, ← List.map_drop,
        resume?_shift]
      cases resume? containers _ with
      | none => rfl
      | some next =>
        simp only [Option.map_some, Prod.map, ih]
        rfl

@[simp] theorem leaf_shift {cursor : Cursor} :
    leaf containers (line.shift distance) cursor (lines.map (Line.shift distance)) =
      shiftParsed distance (leaf containers line cursor lines) := by
  simp only [leaf, afterIndented_shift, afterHtmlText_shift, afterHtmlBlank_shift,
    afterFenced_shift, Line.behind_shift, definitionsAndParagraph_shift, List.length_map]
  -- The kinds of blocks, in the order in which they are tried.
  split
  · rfl
  · split
    · rfl
    · rfl
    · split
      · rfl
      · split
        · rfl
        · split <;> rfl

theorem blocksFrom_shift {fuel : Nat} {afterEmptyItem : Bool} :
    blocksFrom fuel containers afterEmptyItem (lines.map (Line.shift distance)) =
      (blocksFrom fuel containers afterEmptyItem lines).map (Block.shift distance) := by
  induction fuel generalizing containers afterEmptyItem lines with
  | zero => rfl
  | succ fuel ih =>
    cases lines with
    | nil => rfl
    | cons line following =>
      simp only [blocksFrom, List.map_cons, leaf_shift, shiftParsed, Prod.map, List.map_append,
        List.map_map, ih]
      split
      · rfl
      · split
        · rfl
        · rw [List.map_append]
          rfl

/-- **Lines that stand further on have the same blocks, further on.** -/
theorem blocks_shift (distance : Nat) (lines : List Line) :
    blocks (lines.map (Line.shift distance)) = (blocks lines).map (Block.shift distance) := by
  rw [blocks, blocks, List.length_map, blocksFrom_shift]

end Blocks

end Docsite.Markdown
