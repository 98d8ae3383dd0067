/-
**Reading TOML.**

* `read?`: the table that a text spells.
-/

import Docsite.Toml.Number
import Docsite.Toml.Table
import Docsite.Toml.Text

namespace Docsite.Toml

/-! ## Values -/

/-- How deep arrays and inline tables may be nested. -/
def nestingLimit : Nat := 79

mutual

/-- Reads a value. The fuel of this and the following readers bounds the length of the text; `depth`
counts the arrays and inline tables that may still be opened. -/
def readValue : Nat → Nat → List Char → Option (Value × List Char)
  | 0, _, _ => none
  | fuel + 1, depth, cs =>
    match cs with
    | '\x22' :: _ | '\x27' :: _ => (Text.read? cs).map fun (text, behind) => (.string text, behind)
    | '[' :: rest =>
      if depth == 0 then none
      else (readItems fuel (depth - 1) rest).map fun (items, behind) => (.array items, behind)
    | '\x7b' :: rest =>
      if depth == 0 then none
      else match Text.skipBlanks rest with
        | '\x7d' :: behind => some (.table [], behind)
        | _ =>
          (readPairs fuel (depth - 1) [] rest).map fun (members, behind) =>
            (members.toValue, behind)
    | _ => readWord? cs

/-- Reads the items of an array and its closing bracket. -/
def readItems : Nat → Nat → List Char → Option (List Value × List Char)
  | 0, _, _ => none
  | fuel + 1, depth, cs => do
    match ← Text.skipLines cs.length cs with
    | ']' :: behind => return ([], behind)
    | start => do
      let (item, rest) ← readValue fuel depth start
      match ← Text.skipLines rest.length rest with
      | ',' :: rest => do
        let (items, behind) ← readItems fuel depth rest
        return (item :: items, behind)
      | ']' :: behind => return ([item], behind)
      | _ => none

/-- Reads the pairs of an inline table and its closing brace, behind pairs read so far. -/
def readPairs : Nat → Nat → Members → List Char → Option (Members × List Char)
  | 0, _, _, _ => none
  | fuel + 1, depth, members, cs => do
    let (keys, rest) ← Text.key? cs
    match rest with
    | '=' :: rest => do
      let (value, rest) ← readValue fuel depth (Text.skipBlanks rest)
      let members ← members.addPair? value keys
      match Text.skipBlanks rest with
      | ',' :: rest => readPairs fuel depth members rest
      | '\x7d' :: behind => return (members, behind)
      | _ => none
    | _ => none

end

/-! ## Documents -/

/-- Where reading a document stands. -/
structure Progress where
  members : Members := []
  /-- The keys of the last header. -/
  header : List String := []

namespace Progress

/-- Reads a header from behind its first bracket, with the end of its line. -/
def header? (progress : Progress) (cs : List Char) : Option (Progress × List Char) :=
  match cs with
  | '[' :: inner => do
    let (keys, rest) ← Text.key? inner
    match rest with
    | ']' :: ']' :: rest =>
      return ({ members := ← progress.members.openElement? keys, header := keys },
        ← Text.lineEnd? rest)
    | _ => none
  | _ => do
    let (keys, rest) ← Text.key? cs
    match rest with
    | ']' :: rest =>
      return ({ members := ← progress.members.openTable? keys, header := keys },
        ← Text.lineEnd? rest)
    | _ => none

/-- Reads a pair with the end of its line. -/
def pair? (progress : Progress) (cs : List Char) : Option (Progress × List Char) := do
  let (keys, rest) ← Text.key? cs
  match rest with
  | '=' :: rest => do
    let start := Text.skipBlanks rest
    let (value, rest) ← readValue (start.length + 1) nestingLimit start
    let members ← progress.members.update? (Members.addPair? value keys) progress.header
    return ({ progress with members }, ← Text.lineEnd? rest)
  | _ => none

/-- Reads a document. The fuel bounds the number of lines. -/
def readFrom : Nat → Progress → List Char → Option Progress
  | 0, _, _ => none
  | fuel + 1, progress, cs =>
    match Text.skipBlanks cs with
    | [] => some progress
    | '[' :: rest => do
      let (progress, rest) ← progress.header? rest
      readFrom fuel progress rest
    | c :: rest =>
      if c == '#' || c == '\n' || c == '\r' then do
        readFrom fuel progress (← Text.lineEnd? (c :: rest))
      else do
        let (progress, rest) ← progress.pair? (c :: rest)
        readFrom fuel progress rest

end Progress

/-- The table that a text spells; a byte order mark in front of it does not count. -/
def read? (source : String) : Option Value := do
  let cs := match source.toList with
    | '\uFEFF' :: rest => rest
    | cs => cs
  let progress ← Progress.readFrom (cs.length + 1) {} cs
  return progress.members.toValue

end Docsite.Toml
