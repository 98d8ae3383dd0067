/-
**Link labels.**

The text between brackets that names a reference. Labels are compared after their white space is
collapsed and their case folded.

* `read?`: the label in front of a text and what follows its closing bracket.
-/

import Docsite.Markdown.Line
import Docsite.Text.Fold

namespace Docsite.Markdown.Label

/-- The number of characters that is too many for a label. -/
def limit : Nat := 1000

/-- A label, last character first, with the white space that was read behind it as one space. -/
def withPending (label : List Char) (pending : Bool) : List Char :=
  if pending then ' ' :: label else label

/-- The label up to a closing bracket. The characters read so far come last first; `pending` says
that white space was read since, and `breaks` counts the line ends in it. -/
def readFrom (inTable : Bool) (label : List Char) (pending : Bool) (breaks count : Nat) :
    List Char → Option (List Char × List Char)
  | [] => none
  | '\\' :: d :: rest =>
    if count ≥ limit then none
    else if isLineEnd d then
      readFrom inTable ('\\' :: withPending label pending) false 0 (count + 1) (d :: rest)
    else if inTable && d == '|' then
      readFrom inTable (d :: withPending label pending) false 0 (count + 1) rest
    else readFrom inTable (d :: '\\' :: withPending label pending) false 0 (count + 2) rest
  | '\r' :: '\n' :: rest =>
    if count ≥ limit || breaks ≥ 1 then none
    else readFrom inTable label true (breaks + 1) (count + 2) rest
  | c :: rest =>
    if count ≥ limit || c == '[' then none
    else if c == ']' then some ((withPending label pending).reverse, rest)
    else if isLineEnd c then
      if breaks ≥ 1 then none else readFrom inTable label true (breaks + 1) (count + 1) rest
    else if isLineSpace c then readFrom inTable label true breaks (count + 1) rest
    else readFrom inTable (c :: withPending label pending) false 0 (count + 1) rest

/-- The label in front of a text, from behind its opening bracket, and the text behind its closing
bracket. A label of nothing but white space is none. -/
def read? (inTable : Bool) (cs : List Char) : Option (List Char × List Char) :=
  match readFrom inTable [] false 0 0 cs with
  | some (label, rest) => if label.all isSpace then none else some (label, rest)
  | none => none

/-- The form in which labels are compared. -/
def key (label : List Char) : List Char :=
  Text.Fold.fold label

end Docsite.Markdown.Label
