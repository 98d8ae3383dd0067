/-
**Reference definitions.**

A paragraph may start with definitions that give labels a destination and an optional title.

* `read?`: the definition in front of a text and the lines behind it.
-/

import Docsite.Markdown.Destination
import Docsite.Markdown.Label

namespace Docsite.Markdown.Definition

/-- The text behind white space, and the number of line ends in it. -/
def skipGap (breaks : Nat) : List Char → List Char × Nat
  | '\r' :: '\n' :: rest => skipGap (breaks + 1) rest
  | c :: rest =>
    if isLineSpace c then skipGap breaks rest
    else if isLineEnd c then skipGap (breaks + 1) rest
    else (c :: rest, breaks)
  | [] => ([], breaks)

/-- The lines behind the current one, if nothing but white space is left of it. -/
def nextLine? (cs : List Char) : Option (List Char) :=
  match cs.dropWhile isLineSpace with
  | [] => some []
  | '\r' :: '\n' :: rest | '\n' :: rest | '\r' :: rest => some rest
  | _ => none

/-- The lines behind a definition whose destination has been read. -/
def behind? (cs : List Char) : Option (List Char) :=
  match skipGap 0 cs with
  | (next, breaks) =>
    let titled := if next.length < cs.length && breaks ≤ 1 then
      (Destination.skipTitle? next).bind nextLine? else none
    match titled with
    | some rest => some rest
    | none => nextLine? cs

/-- The label and the destination, as written, of the definition in front of a text, and the lines
behind it. -/
def read? (cs : List Char) : Option (List Char × List Char × List Char) :=
  match cs with
  | '[' :: inner =>
    match Label.read? false inner with
    | some (label, ':' :: rest) =>
      let (start, breaks) := skipGap 0 rest
      if breaks > 1 then none
      else match Destination.read? start with
        | some (destination, after) =>
          if after.length == start.length then none
          else (behind? after).map fun rest => (label, destination, rest)
        | none => none
    | _ => none
  | _ => none

end Docsite.Markdown.Definition
