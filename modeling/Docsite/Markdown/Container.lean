/-
**Containers.**

Block quotes, list items and footnotes hold other blocks. Every line has to say again that it
belongs to them, by a marker or by its indentation.

* `enterAll`: how many of the open containers a line continues, and where its content starts.
* `openAll`: the containers that open on a line.
-/

import Docsite.Markdown.Label

namespace Docsite.Markdown

/-! ## Continuing containers -/

/-- A block that holds other blocks. -/
inductive Container where
  | quote
  /-- A list item, with the columns of indentation that its lines need. -/
  | item (indent : Nat)
  /-- The definition of a footnote. -/
  | note
  deriving DecidableEq, Repr

/-- The cursor behind a quote marker and the column that belongs to it. -/
def quoteMarker? (cursor : Cursor) : Option Cursor :=
  (cursor.take? '>').map fun behind => (behind.skip 1).2

/-- The cursor behind an indentation that a line without content need not have. -/
def indentation? (columns : Nat) (cursor : Cursor) : Option Cursor :=
  let (missing, behind) := cursor.skip columns
  if missing == 0 || behind.atEnd then some behind else none

/-- Where the content of a line starts that continues a container. -/
def Container.enter? (container : Container) (cursor : Cursor) : Option Cursor :=
  match container with
  | .quote => quoteMarker? (cursor.skip 3).2
  | .item indent => indentation? indent cursor
  | .note => indentation? 4 cursor

/-- How many containers a line continues, and where its content starts. -/
def enterAll : List Container → Cursor → Nat × Cursor
  | [], cursor => (0, cursor)
  | container :: inner, cursor =>
    match container.enter? cursor with
    | some behind =>
      let (count, last) := enterAll inner behind
      (count + 1, last)
    | none => (0, cursor)

/-- Where the content of a line starts that continues all containers. -/
def enter? (containers : List Container) (line : Line) : Option Cursor :=
  let (count, cursor) := enterAll containers { rest := line.chars }
  if count == containers.length then some cursor else none

/-! ## Opening containers -/

/-- Whether the rest of a line is a thematic break. -/
def isThematicBreak (cs : List Char) : Bool :=
  match cs with
  | c :: _ =>
    (c == '*' || c == '-' || c == '_') && (cs.filter (· == c)).length ≥ 3 &&
      cs.all fun d => d == c || d == ' ' || d == '\t'
  | [] => false

/-- Whether a character is the marker of a bullet list. -/
def isBullet (c : Char) : Bool :=
  c == '-' || c == '+' || c == '*'

/-- The number of characters of a list marker, and its number if it has one. -/
def markerLength? (cs : List Char) : Option (Nat × Option Nat) :=
  match cs with
  | [] => none
  | c :: _ =>
    if isBullet c then some (1, none)
    else
      let digits := cs.takeWhile Char.isDigit
      match digits, cs.drop digits.length with
      | _ :: _, d :: _ =>
        if digits.length ≤ 9 && (d == '.' || d == ')') then
          some (digits.length + 1, some (Text.Numeral.value 10 digits))
        else none
      | _, _ => none

/-- The indentation that a list item needs and where its content starts, behind a marker that was
indented by `outer` columns. -/
def listMarker? (outer : Nat) (cursor : Cursor) : Option (Nat × Cursor) :=
  match markerLength? cursor.rest with
  | none => none
  | some (length, number) =>
    if number.isNone && isThematicBreak cursor.rest then none
    else
      let behind : Cursor :=
        { rest := cursor.rest.drop length, column := cursor.column + length, spare := cursor.spare }
      match indentation? 1 behind with
      | none => none
      | some content =>
        if isBlankLine content.rest then some (outer + length + 1, content)
        else
          let (missing, deeper) := content.skip 4
          if missing == 0 then some (outer + length + 1, content)
          else some (outer + length + 1 + (4 - missing), deeper)

/-- The cursor behind the box of a task. -/
def taskMarker? (cursor : Cursor) : Option Cursor :=
  match (cursor.skip 3).2 with
  | { rest := '[' :: mark :: ']' :: c :: rest, column, .. } =>
    if (isLineSpace mark || mark == 'x' || mark == 'X') && isLineSpace c then
      some { rest := c :: rest, column := column + 3 }
    else none
  | _ => none

/-- The label of a footnote that is defined in front of a text, and the text behind the colon. -/
def noteMarker? (cs : List Char) : Option (List Char × List Char) :=
  match cs with
  | '[' :: '^' :: rest =>
    match Label.read? false rest with
    | some (label, ':' :: behind) => some (label, behind)
    | _ => none
  | _ => none

/-- What a line opens. -/
structure Opening where
  containers : List Container
  /-- The labels of the footnotes that are defined. -/
  notes : List (List Char)
  cursor : Cursor
  /-- Whether the line ends with a list item that has no content yet. -/
  endsInEmptyItem : Bool

/-- The containers, the innermost last, with a footnote in place of one that is open. -/
def pushNote (containers : List Container) : List Container :=
  (if containers.getLast? == some .note then containers.dropLast else containers) ++ [.note]

/-- The containers that open on a line, inside those that it continues. The fuel bounds their
number. -/
def openAll : Nat → List Container → List (List Char) → Cursor → Opening
  | 0, containers, notes, cursor => { containers, notes, cursor, endsInEmptyItem := false }
  | fuel + 1, containers, notes, cursor =>
    let (missing, start) := cursor.skip 4
    if missing == 0 then { containers, notes, cursor, endsInEmptyItem := false }
    else match noteMarker? start.rest with
      | some (label, behind) =>
        let cursor : Cursor := { rest := behind.dropWhile isLineSpace }
        openAll fuel (pushNote containers) (notes ++ [label]) cursor
      | none =>
        match listMarker? (4 - missing) start with
        | some (indent, content) =>
          let inside := containers ++ [.item indent]
          let content :=
            if isBlankLine content.rest then content else (taskMarker? content).getD content
          if isBlankLine content.rest then
            { containers := inside, notes, cursor := content, endsInEmptyItem := true }
          else openAll fuel inside notes content
        | none =>
          match quoteMarker? start with
          | some content => openAll fuel (containers ++ [.quote]) notes content
          | none => { containers, notes, cursor, endsInEmptyItem := false }

end Docsite.Markdown
