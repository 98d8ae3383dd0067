/-
**Tables.**

A table is a header row, a row of dashes with as many columns, and rows of cells.

* `delimiterColumns?`: the number of columns of a row of dashes.
* `headerColumns`, `interruptingColumns`: the number of columns of a header row.
* `cells`: the cells of a row.
-/

import Docsite.Markdown.Line

namespace Docsite.Markdown.Table

/-! ## The row of dashes -/

/-- The number of columns in the rest of a row of dashes. `open` says that the current column has
begun and `dashed` that it has a dash; `bar` says that a bar was seen. -/
def delimiterFrom (columns : Nat) (begun dashed bar hyphen : Bool) : List Char → Option Nat
  | [] => if bar && hyphen then some (if begun then columns + 1 else columns) else none
  | c :: rest =>
    if c == ' ' then delimiterFrom columns begun dashed bar hyphen rest
    else if c == ':' then delimiterFrom columns true dashed bar hyphen rest
    else if c == '-' then delimiterFrom columns true true bar true rest
    else if c == '|' then
      if dashed then delimiterFrom (columns + 1) false false true hyphen rest else none
    else none

/-- The number of columns of a row of dashes; dashes without any bar are no such row. -/
def delimiterColumns? (cs : List Char) : Option Nat :=
  let (missing, start) := Cursor.skip 4 { rest := cs }
  if missing == 0 then none
  else match start.rest with
    | '|' :: rest => delimiterFrom 0 false false true false rest
    | [] => none
    | rest => delimiterFrom 0 false false false false rest

/-! ## Rows -/

/-- The number of characters that a backslash takes along in a row. -/
def escapeLength (inCell : Bool) (rest : List Char) : Nat :=
  match rest with
  | '\x60' :: _ => (rest.takeWhile (· == '\x60')).length
  | '\\' :: '|' :: _ => if inCell then 2 else 1
  | c :: _ => if isPunctuation c then 1 else 0
  | [] => 0

/-- The texts before and behind the first bar that is not escaped. The fuel bounds the length of the
text. -/
def cutAtBar (inCell : Bool) : Nat → List Char → List Char × Option (List Char)
  | 0, cs => (cs, none)
  | _ + 1, [] => ([], none)
  | fuel + 1, c :: rest =>
    if c == '|' then ([], some rest)
    else
      let taken := if c == '\\' then escapeLength inCell rest else 0
      let (before, behind) := cutAtBar inCell fuel (rest.drop taken)
      (c :: rest.take taken ++ before, behind)

/-- The texts between the bars of a row that are not escaped. The fuel bounds their number. -/
def betweenBars (inCell : Bool) : Nat → List Char → List (List Char)
  | 0, cs => [cs]
  | fuel + 1, cs =>
    match cutAtBar inCell cs.length cs with
    | (before, none) => [before]
    | (before, some behind) => before :: betweenBars inCell fuel behind

/-- The texts between the bars of a row that no backslash stands before; `escaped` says that one
stands before the text. -/
def betweenPlainBars (escaped : Bool) : List Char → List (List Char)
  | [] => [[]]
  | c :: rest =>
    if c == '|' && !escaped then [] :: betweenPlainBars false rest
    else match betweenPlainBars (c == '\\') rest with
      | [] => [[c]]
      | part :: parts => (c :: part) :: parts

/-- The number of columns of a row with the given texts between its bars; a row without bars has
none, and what is outside the outer bars is no column. -/
def columnCount (cs : List Char) (parts : List (List Char)) : Nat :=
  if parts.length ≤ 1 then 0
  else
    let first := (cs.dropWhile isLineSpace).head? == some '|'
    let last := isBlankLine (parts.getLast?.getD [])
    parts.length - (if first then 1 else 0) - (if last then 1 else 0)

/-- The number of columns of a header row; a row that ends in a backslash of its own is none. -/
def headerColumns (cs : List Char) : Nat :=
  if (cs.reverse.takeWhile (· == '\\')).length % 2 == 1 then 0
  else columnCount cs (betweenBars false cs.length cs)

/-- The number of columns that a row is taken to have when it might interrupt a paragraph. -/
def interruptingColumns (cs : List Char) : Nat :=
  columnCount cs (betweenPlainBars false cs)

/-- Texts with a bar between any two of them, each with the number of characters before it; before
the first there are `start`. -/
def withStarts (start : Nat) : List (List Char) → List (Nat × List Char)
  | [] => []
  | part :: parts => (start, part) :: withStarts (start + part.length + 1) parts

/-- The cells of a row, each with the number of characters of the row before it. -/
def cells (cs : List Char) : List (Nat × List Char) :=
  let (start, row) := match cs with
    | '|' :: rest => (1, rest)
    | _ => (0, cs)
  let parts := betweenBars true row.length row
  withStarts start (if isBlankLine (parts.getLast?.getD []) then parts.dropLast else parts)

end Docsite.Markdown.Table
