/-
**Source lines.**

A Markdown text as its lines, and a cursor that reads the start of a line, where a tab reaches to
the next multiple of four columns and may be used up in parts.

* `Line.split`: the lines of a text; each keeps the characters that end it.
* `Cursor.skip`: reads up to a number of columns of indentation.
-/

namespace Docsite.Markdown

/-! ## Character classes -/

/-- White space inside a line. -/
def isLineSpace (c : Char) : Bool :=
  c == ' ' || c == '\t' || c == '\x0b' || c == '\x0c'

/-- A character that ends a line. -/
def isLineEnd (c : Char) : Bool :=
  c == '\n' || c == '\r'

/-- ASCII white space. -/
def isSpace (c : Char) : Bool :=
  isLineSpace c || isLineEnd c

/-- ASCII punctuation, which a backslash can escape. -/
def isPunctuation (c : Char) : Bool :=
  let n := c.toNat
  (0x21 ≤ n && n ≤ 0x2F) || (0x3A ≤ n && n ≤ 0x40) || (0x5B ≤ n && n ≤ 0x60) ||
    (0x7B ≤ n && n ≤ 0x7E)

/-- Whether the rest of a line holds nothing but white space. -/
def isBlankLine (cs : List Char) : Bool :=
  cs.all isLineSpace

/-! ## Lines -/

/-- A line of a text, or what is left of it behind the marks of containers. -/
structure Line where
  /-- The number of characters of the text before the line. -/
  start : Nat
  chars : List Char
  /-- The characters that end the line; none at the end of the text. -/
  ending : List Char
  deriving Repr

namespace Line

/-- A line that starts with one more character, as the first of several lines. -/
def cons (start : Nat) (c : Char) : List Line → List Line
  | [] => [{ start, chars := [c], ending := [] }]
  | line :: more => { line with start, chars := c :: line.chars } :: more

/-- The lines of a text in front of which `start` characters stand. -/
def splitFrom (start : Nat) : List Char → List Line
  | [] => []
  | '\r' :: '\n' :: rest =>
    { start, chars := [], ending := ['\r', '\n'] } :: splitFrom (start + 2) rest
  | '\n' :: rest => { start, chars := [], ending := ['\n'] } :: splitFrom (start + 1) rest
  | '\r' :: rest => { start, chars := [], ending := ['\r'] } :: splitFrom (start + 1) rest
  | c :: rest => cons start c (splitLine (start + 1) rest)
where
  /-- The lines from the middle of a line on; there is one even at the end of the text. -/
  splitLine (start : Nat) : List Char → List Line
  | [] => [{ start, chars := [], ending := [] }]
  | '\r' :: '\n' :: rest =>
    { start, chars := [], ending := ['\r', '\n'] } :: splitFrom (start + 2) rest
  | '\n' :: rest => { start, chars := [], ending := ['\n'] } :: splitFrom (start + 1) rest
  | '\r' :: rest => { start, chars := [], ending := ['\r'] } :: splitFrom (start + 1) rest
  | c :: rest => cons start c (splitLine (start + 1) rest)

/-- The lines of a text. -/
def split (source : List Char) : List Line :=
  splitFrom 0 source

/-- What is left of a line when only `rest`, the end of its characters, is. -/
def behind (line : Line) (rest : List Char) : Line :=
  { line with start := line.start + (line.chars.length - rest.length), chars := rest }

/-- The number of characters of a line with those that end it. -/
def length (line : Line) : Nat :=
  line.chars.length + line.ending.length

end Line

/-! ## Cursors -/

/-- A place at the start of a line. -/
structure Cursor where
  rest : List Char
  /-- The column of `rest`. -/
  column : Nat := 0
  /-- The columns before `rest` that belong to a tab and were not used up. -/
  spare : Nat := 0
  deriving Repr

namespace Cursor

/-- Reads up to `wanted` columns of indentation; gives how many were missing. -/
def skipFrom (wanted column : Nat) : List Char → Nat × Cursor
  | ' ' :: rest =>
    if wanted == 0 then (0, { rest := ' ' :: rest, column })
    else skipFrom (wanted - 1) (column + 1) rest
  | '\t' :: rest =>
    let width := 4 - column % 4
    if wanted == 0 then (0, { rest := '\t' :: rest, column })
    else if wanted < width then (0, { rest, column := column + width, spare := width - wanted })
    else skipFrom (wanted - width) (column + width) rest
  | rest => (wanted, { rest, column })

/-- Reads up to `wanted` columns of indentation; gives how many were missing. -/
def skip (wanted : Nat) (cursor : Cursor) : Nat × Cursor :=
  if wanted ≤ cursor.spare then (0, { cursor with spare := cursor.spare - wanted })
  else skipFrom (wanted - cursor.spare) cursor.column cursor.rest

/-- Reads all indentation. -/
def skipAll (cursor : Cursor) : List Char :=
  cursor.rest.dropWhile fun c => c == ' ' || c == '\t'

/-- Whether nothing follows on the line. -/
def atEnd (cursor : Cursor) : Bool :=
  cursor.rest.isEmpty

/-- Reads one given character. -/
def take? (c : Char) (cursor : Cursor) : Option Cursor :=
  match cursor.rest with
  | first :: rest =>
    if first == c then some { cursor with rest, column := cursor.column + 1 } else none
  | [] => none

end Cursor

end Docsite.Markdown
