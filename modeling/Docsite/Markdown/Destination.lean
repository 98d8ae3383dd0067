/-
**Link destinations and titles.**

* `read?`: the destination in front of a text, in angle brackets or without white space.
* `unescape`: a destination with its escapes and entities resolved.
* `skipTitle?`: the text behind a title.
-/

import Docsite.Markdown.Entity
import Docsite.Markdown.Line

namespace Docsite.Markdown.Destination

/-! ## Destinations -/

/-- The destination up to its closing angle bracket. -/
def readPointy : List Char → Option (List Char × List Char)
  | [] => none
  | '>' :: rest => some ([], rest)
  | '\\' :: c :: rest =>
    if isPunctuation c then (readPointy rest).map fun (dest, behind) => ('\\' :: c :: dest, behind)
    else (readPointy (c :: rest)).map fun (dest, behind) => ('\\' :: dest, behind)
  | c :: rest =>
    if isLineEnd c || c == '<' then none
    else (readPointy rest).map fun (dest, behind) => (c :: dest, behind)

/-- How deep parentheses may be nested in a destination. -/
def nestingLimit : Nat := 32

/-- The destination up to white space or an unmatched closing parenthesis, inside `nest` opened
ones. -/
def readBare (nest : Nat) : List Char → Option (List Char × List Char)
  | [] => if nest == 0 then some ([], []) else none
  | '\\' :: c :: rest =>
    if isPunctuation c then
      (readBare nest rest).map fun (dest, behind) => ('\\' :: c :: dest, behind)
    else (readBare nest (c :: rest)).map fun (dest, behind) => ('\\' :: dest, behind)
  | c :: rest =>
    if c.toNat ≤ 0x20 || (c == ')' && nest == 0) then
      if nest == 0 then some ([], c :: rest) else none
    else if c == '(' && nest > nestingLimit then none
    else
      let nest' := if c == '(' then nest + 1 else if c == ')' then nest - 1 else nest
      (readBare nest' rest).map fun (dest, behind) => (c :: dest, behind)

/-- The destination in front of a text, as written, and the text behind it. -/
def read? (cs : List Char) : Option (List Char × List Char) :=
  match cs with
  | '<' :: rest => readPointy rest
  | _ => readBare 0 cs

/-! ## Escapes -/

/-- A text with its escapes and entities resolved. In a table, two backslashes before a bar stand
for the bar. The fuel bounds the length of the text. -/
def unescapeFrom (inTable : Bool) : Nat → List Char → List Char
  | 0, _ => []
  | _ + 1, [] => []
  | fuel + 1, c :: rest =>
    match c, rest with
    | '\\', '\\' :: '|' :: more =>
      if inTable then '|' :: unescapeFrom inTable fuel more
      else '\\' :: unescapeFrom inTable fuel ('|' :: more)
    | '\\', d :: more =>
      if isPunctuation d then d :: unescapeFrom inTable fuel more
      else '\\' :: unescapeFrom inTable fuel rest
    | '&', _ =>
      match Entity.read? rest with
      | some (chars, behind) => chars ++ unescapeFrom inTable fuel behind
      | none => '&' :: unescapeFrom inTable fuel rest
    | '\r', _ => unescapeFrom inTable fuel rest
    | _, _ => c :: unescapeFrom inTable fuel rest

/-- A text with its escapes and entities resolved. -/
def unescape (inTable : Bool) (cs : List Char) : List Char :=
  unescapeFrom inTable cs.length cs

/-! ## Titles -/

/-- The text behind the closing mark of a title. -/
def skipTitleTo (opening closing : Char) : List Char → Option (List Char)
  | [] => none
  | '\\' :: c :: rest =>
    if isPunctuation c then skipTitleTo opening closing rest
    else skipTitleTo opening closing (c :: rest)
  | c :: rest =>
    if c == closing then some rest
    else if c == opening then none
    else skipTitleTo opening closing rest

/-- The text behind a title in front of a text. -/
def skipTitle? (cs : List Char) : Option (List Char) :=
  match cs with
  | '\x22' :: rest => skipTitleTo '\x22' '\x22' rest
  | '\x27' :: rest => skipTitleTo '\x27' '\x27' rest
  | '(' :: rest => skipTitleTo '(' ')' rest
  | _ => none

/-! ## White space around them -/

/-- The text behind white space with at most one line end in it. -/
def skipSeparator (cs : List Char) : List Char :=
  match cs.dropWhile isLineSpace with
  | '\r' :: '\n' :: rest | '\n' :: rest | '\r' :: rest => rest.dropWhile isLineSpace
  | rest => rest

end Docsite.Markdown.Destination
