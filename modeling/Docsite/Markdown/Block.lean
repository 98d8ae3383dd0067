/-
**Blocks.**

The blocks of a Markdown text, as far as links depend on them: the stretches of running text, and
the labels that are defined for references and footnotes.

* `Block.ofLines`: the blocks of a text, in the order of its lines.
-/

import Docsite.Markdown.Container
import Docsite.Markdown.Definition
import Docsite.Markdown.Html
import Docsite.Markdown.Table

namespace Docsite.Markdown

/-! ## What blocks hold -/

/-- A stretch of running text: a paragraph, a heading or the cell of a table. -/
structure Stretch where
  lines : List Line
  inTable : Bool := false
  deriving Repr

/-- What a text holds for its links. -/
inductive Block where
  | stretch (text : Stretch)
  | definition (label destination : List Char)
  | note (label : List Char)
  deriving Repr

/-- The text of consecutive lines. -/
def joinLines (lines : List Line) : List Char :=
  lines.flatMap fun line => line.chars ++ line.ending

/-- The number of characters of a text before the character with the given index in some of its
lines. -/
def positionIn : List Line → Nat → Nat
  | [], _ => 0
  | line :: more, index =>
    if index < line.length then line.start + index else positionIn more (index - line.length)

/-- The characters of a stretch. -/
def Stretch.chars (text : Stretch) : List Char :=
  joinLines text.lines

/-! ## Single lines -/

/-- Whether the rest of a line underlines a heading. -/
def isUnderline (cs : List Char) : Bool :=
  match cs with
  | c :: _ => (c == '=' || c == '-') && isBlankLine (cs.dropWhile (· == c))
  | [] => false

/-- The text of a heading that is marked by hashes. -/
def hashHeading? (cs : List Char) : Option (List Char) :=
  let level := (cs.takeWhile (· == '#')).length
  let rest := cs.drop level
  if 1 ≤ level && level ≤ 6 && (rest.head?.map isLineSpace).getD true then
    some (rest.dropWhile isLineSpace)
  else none

/-- The mark and the length of a fence that opens a code block. -/
def fence? (cs : List Char) : Option (Char × Nat) :=
  match cs with
  | c :: _ =>
    let length := (cs.takeWhile (· == c)).length
    if (c == '~' || (c == '\x60' && !(cs.drop length).contains c)) && length ≥ 3 then
      some (c, length)
    else none
  | [] => none

/-- Whether the rest of a line closes a fence. -/
def closesFence (mark : Char) (length : Nat) (cs : List Char) : Bool :=
  (cs.takeWhile (· == mark)).length ≥ length &&
    ((cs.dropWhile (· == mark)).all (· == ' '))

/-! ## Interrupting a paragraph -/

/-- Whether a line starts a list item that may interrupt a paragraph. Outside the containers of the
paragraph every item may; inside, it must have content and must not count from another number than
one. -/
def itemInterrupts (inside : Bool) (cs : List Char) (following : List Line) : Bool :=
  match markerLength? cs with
  | none => false
  | some (length, number) =>
    let content := cs.drop length
    (content.head?.map fun c => c == ' ' || c == '\t').getD true &&
      (!inside ||
        (number.getD 1 == 1 &&
          !(isBlankLine content &&
            ((following.head?.map fun line => isBlankLine line.chars).getD true))))

/-- Whether a line cannot continue a paragraph, tables aside. -/
def interruptsPlainly (inside : Bool) (cs : List Char) (following : List Line) : Bool :=
  cs.isEmpty || isThematicBreak cs || (hashHeading? cs).isSome || (fence? cs).isSome ||
    cs.head? == some '>' || itemInterrupts inside cs following ||
    (Html.interruptingStart? cs).isSome || (noteMarker? cs).isSome

/-- The number of columns of the table that a header line with so many opens, and the lines behind
its row of dashes. -/
def tableStart? (containers : List Container) (columns : Nat) (following : List Line) :
    Option (Nat × List Line) :=
  match following with
  | [] => none
  | line :: more =>
    match enter? containers line with
    | none => none
    | some cursor =>
      if Table.delimiterColumns? cursor.rest == some columns then some (columns, more) else none

/-- Whether a line cannot continue a paragraph. -/
def interrupts (containers : List Container) (inside : Bool) (cs : List Char)
    (following : List Line) : Bool :=
  interruptsPlainly inside cs following ||
    (cs.head? == some '|' &&
      (tableStart? containers (Table.interruptingColumns cs) following).isSome)

/-! ## The lines of a block -/

/-- The lines behind an indented code block. -/
def afterIndented (containers : List Container) : List Line → List Line
  | [] => []
  | line :: more =>
    match enter? containers line with
    | some cursor =>
      if (indentation? 4 cursor).isSome then afterIndented containers more else line :: more
    | none => line :: more

/-- The lines behind a fenced code block whose fence was indented by `indent` columns. -/
def afterFenced (containers : List Container) (indent : Nat) (mark : Char) (length : Nat) :
    List Line → List Line
  | [] => []
  | line :: more =>
    match enter? containers line with
    | some cursor =>
      let (missing, start) := (cursor.skip indent).2.skip (4 - indent)
      if missing > 0 && closesFence mark length start.rest then more
      else afterFenced containers indent mark length more
    | none => line :: more

/-- The lines behind a block of raw HTML that ends with a line that holds `text`; `current` is the
line before. -/
def afterHtmlText (containers : List Container) (text current : List Char) :
    List Line → List Line
  | [] => []
  | line :: more =>
    match enter? containers line with
    | some cursor =>
      if Text.occursIn text current then line :: more
      else afterHtmlText containers text cursor.rest more
    | none => line :: more

/-- The lines behind a block of raw HTML that ends before a blank line. -/
def afterHtmlBlank (containers : List Container) : List Line → List Line
  | [] => []
  | line :: more =>
    match enter? containers line with
    | some cursor =>
      if isBlankLine cursor.rest then line :: more else afterHtmlBlank containers more
    | none => line :: more

/-- The rows of a table, and the lines behind it. -/
def tableRows (containers : List Container) : List Line → List Line × List Line
  | [] => ([], [])
  | line :: more =>
    match enter? containers line with
    | some cursor =>
      let row := cursor.skipAll
      if interruptsPlainly true row more || (Table.cells row).isEmpty then ([], line :: more)
      else
        let (rows, behind) := tableRows containers more
        (line.behind row :: rows, behind)
    | none => ([], line :: more)

/-- The lines that continue a paragraph, and the lines behind it; an underline belongs to it. -/
def paragraphLines (containers : List Container) : List Line → List Line × List Line
  | [] => ([], [])
  | line :: more =>
    let (count, cursor) := enterAll containers { rest := line.chars }
    let inside := count == containers.length
    let (missing, start) := cursor.skip 4
    if missing > 0 && inside && isUnderline start.rest then ([], more)
    else if missing > 0 && interrupts containers inside start.rest more then ([], line :: more)
    else
      let chars := start.skipAll
      if chars.isEmpty then ([], line :: more)
      else
        let (lines, behind) := paragraphLines containers more
        (line.behind chars :: lines, behind)

/-- The lines that a reference definition may reach over. -/
def definitionLines (containers : List Container) : List Line → List Line
  | [] => []
  | line :: more =>
    let (count, cursor) := enterAll containers { rest := line.chars }
    let (missing, start) := cursor.skip 4
    if isBlankLine start.rest then []
    else if missing > 0 &&
        (interrupts containers (count == containers.length) start.rest more ||
          isUnderline start.rest) then []
    else line.behind start.rest :: definitionLines containers more

/-! ## Paragraphs and tables -/

/-- The cells of a row, as stretches of text. -/
def rowBlocks (columns : Nat) (row : Line) : List Block :=
  ((Table.cells row.chars).take columns).map fun (before, chars) =>
    .stretch { lines := [{ start := row.start + before, chars, ending := [] }], inTable := true }

/-- The blocks of a paragraph or table that starts with the given line, and the lines behind it. -/
def paragraph (containers : List Container) (first : Line) (following : List Line) :
    List Block × List Line :=
  match tableStart? containers (Table.headerColumns first.chars) following with
  | some (columns, body) =>
    let (rows, behind) := tableRows containers body
    ((first :: rows).flatMap (rowBlocks columns), behind)
  | none =>
    let (lines, behind) := paragraphLines containers following
    ([.stretch { lines := first :: lines }], behind)

/-- The start of the line behind a definition, if it goes on with the paragraph. -/
def resume? (containers : List Container) : List Line → Option (Line × List Line)
  | [] => none
  | line :: more =>
    let (count, cursor) := enterAll containers { rest := line.chars }
    let (missing, start) := cursor.skip 4
    if missing > 0 && interrupts containers (count == containers.length) start.rest more then none
    else some (line.behind start.skipAll, more)

/-- The blocks of a paragraph with the definitions in front of it, and the lines behind it. The fuel
bounds the number of definitions. -/
def definitionsAndParagraph (containers : List Container) : Nat → Line → List Line →
    List Block × List Line
  | 0, first, following => paragraph containers first following
  | fuel + 1, first, following =>
    let lines := first :: definitionLines containers following
    match Definition.read? (joinLines lines) with
    | none => paragraph containers first following
    | some (label, destination, rest) =>
      let block := Block.definition label destination
      let behind := following.drop (lines.length - (Line.split rest).length - 1)
      match resume? containers behind with
      | none => ([block], behind)
      | some (next, more) =>
        let (blocks, behind) := definitionsAndParagraph containers fuel next more
        (block :: blocks, behind)

/-! ## All blocks -/

/-- The containers without a list item at the end. -/
def dropEmptyItem : List Container → List Container
  | containers =>
    match containers.getLast? with
    | some (.item _) => containers.dropLast
    | _ => containers

/-- The blocks that a line with content opens, and the lines behind them. -/
def leaf (containers : List Container) (line : Line) (cursor : Cursor) (following : List Line) :
    List Block × List Line :=
  let (missing, start) := cursor.skip 4
  if missing == 0 then ([], afterIndented containers following)
  else match Html.blockStart? start.rest with
    | some (.atText text) => ([], afterHtmlText containers text start.rest following)
    | some .atBlank => ([], afterHtmlBlank containers following)
    | none =>
      if isThematicBreak start.rest then ([], following)
      else match hashHeading? start.rest with
        | some chars =>
          ([.stretch { lines := [{ line.behind chars with ending := [] }] }], following)
        | none =>
          match fence? start.rest with
          | some (mark, length) =>
            ([], afterFenced containers (4 - missing) mark length following)
          | none =>
            definitionsAndParagraph containers (following.length + 1) (line.behind start.rest)
              following

/-- The blocks of lines inside the given containers. `afterEmptyItem` says that the line before
ended in a list item without content; a blank line closes such an item. The fuel bounds the number
of lines. -/
def blocksFrom : Nat → List Container → Bool → List Line → List Block
  | 0, _, _, _ => []
  | _ + 1, _, _, [] => []
  | fuel + 1, containers, afterEmptyItem, line :: following =>
    let (count, cursor) := enterAll containers { rest := line.chars }
    let opening := openAll (line.chars.length + 1) (containers.take count) [] cursor
    opening.notes.map Block.note ++
      if opening.endsInEmptyItem then blocksFrom fuel opening.containers true following
      else if isBlankLine opening.cursor.rest then
        let containers :=
          if afterEmptyItem then dropEmptyItem opening.containers else opening.containers
        blocksFrom fuel containers false following
      else
        let (blocks, behind) := leaf opening.containers line opening.cursor following
        blocks ++ blocksFrom fuel opening.containers false behind

/-- The blocks of a text, in the order of its lines. -/
def blocks (lines : List Line) : List Block :=
  blocksFrom lines.length [] false lines

end Docsite.Markdown
