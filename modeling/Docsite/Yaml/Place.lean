/-
**Places in a YAML text.**

A place is what is left to read together with the line and the column that it starts at. Five
characters end a line; a carriage return with a line feed ends one line, not two.

* `Place.takeBreak?`: reads the end of a line.
* `Place.readGap`: reads the white space between two words, over any number of lines.
-/

namespace Docsite.Yaml

/-! ## Character classes -/

/-- A space or a tab. -/
def isBlank (c : Char) : Bool :=
  c == ' ' || c == '\t'

/-- A character that ends a line. -/
def isBreak (c : Char) : Bool :=
  c == '\n' || c == '\r' || c == '\u0085' || c == '\u2028' || c == '\u2029'

/-- White space. -/
def isSpace (c : Char) : Bool :=
  isBlank c || isBreak c

/-- A character of a name. -/
def isWordChar (c : Char) : Bool :=
  c.isAlphanum || c == '_' || c == '-'

/-- A character that may stand in a text at all. -/
def isAllowed (c : Char) : Bool :=
  let n := c.toNat
  n == 0x09 || n == 0x0A || n == 0x0D || (0x20 ≤ n && n ≤ 0x7E) || n == 0x85 ||
    (0xA0 ≤ n && n ≤ 0xFFFD) || 0x10000 ≤ n

/-- Whether the text ends here or goes on with white space. -/
def atWordEnd (cs : List Char) : Bool :=
  match cs with
  | [] => true
  | c :: _ => isSpace c

/-! ## Places -/

/-- A place in a text. -/
structure Place where
  rest : List Char
  /-- The number of characters before the place. -/
  index : Nat := 0
  line : Nat := 0
  column : Nat := 0
  deriving Repr

namespace Place

/-- The place behind characters of the same line. -/
def skip (place : Place) (count : Nat) : Place :=
  { place with
    rest := place.rest.drop count
    index := place.index + count
    column := place.column + count }

/-- The place behind all characters in front of it that belong to a class. -/
def skipWhile (place : Place) (belongs : Char → Bool) : Place :=
  place.skip (place.rest.takeWhile belongs).length

/-- The start of the next line, behind a line end of `count` characters. -/
def nextLine (place : Place) (count : Nat) : Place :=
  { rest := place.rest.drop count, index := place.index + count, line := place.line + 1 }

/-- Reads the end of a line; its text is a line feed unless it separates lines or paragraphs by a
character of its own. -/
def takeBreak? (place : Place) : Option (Char × Place) :=
  match place.rest with
  | '\r' :: '\n' :: _ => some ('\n', place.nextLine 2)
  | '\r' :: _ | '\n' :: _ | '\u0085' :: _ => some ('\n', place.nextLine 1)
  | '\u2028' :: _ => some ('\u2028', place.nextLine 1)
  | '\u2029' :: _ => some ('\u2029', place.nextLine 1)
  | _ => none

/-- Whether a line starts here with three times the given character and nothing else in the same
word. -/
def atMarker (place : Place) (c : Char) : Bool :=
  place.column == 0 &&
    match place.rest with
    | c₀ :: c₁ :: c₂ :: rest => c₀ == c && c₁ == c && c₂ == c && atWordEnd rest
    | _ => false

/-- Whether the start or the end of a document is marked here. -/
def atDocumentMarker (place : Place) : Bool :=
  place.atMarker '-' || place.atMarker '.'

end Place

/-! ## Gaps -/

/-- The white space between two words. -/
structure Gap where
  /-- What stands before the first line end. -/
  blanks : List Char := []
  /-- The first line end; empty for one that is escaped. -/
  first : Option (List Char) := none
  /-- The other line ends. -/
  others : List Char := []

namespace Gap

/-- What a gap stands for: inside a line for itself, a single line end for a space, and several line
ends for all but the first. -/
def text (gap : Gap) : List Char :=
  match gap.first with
  | none => gap.blanks
  | some ['\n'] => if gap.others.isEmpty then [' '] else gap.others
  | some first => first ++ gap.others

/-- A gap with a line end behind it. -/
def addBreak (gap : Gap) (c : Char) : Gap :=
  match gap.first with
  | none => { blanks := [], first := some [c] }
  | some _ => { gap with others := gap.others ++ [c] }

/-- A gap with a blank behind it; at the start of a line blanks do not count. -/
def addBlank (gap : Gap) (c : Char) : Gap :=
  match gap.first with
  | none => { gap with blanks := gap.blanks ++ [c] }
  | some _ => gap

/-- Reads white space behind a gap. Behind a line end a tab must not stand before the given column.
The fuel bounds the length of the text. -/
def readFrom (tabColumn : Nat) : Nat → Gap → Place → Option (Gap × Place)
  | 0, gap, place => some (gap, place)
  | fuel + 1, gap, place =>
    match place.takeBreak?, place.rest with
    | some (c, next), _ => readFrom tabColumn fuel (gap.addBreak c) next
    | none, c :: _ =>
      if !isBlank c then some (gap, place)
      else if c == '\t' && gap.first.isSome && place.column < tabColumn then none
      else readFrom tabColumn fuel (gap.addBlank c) (place.skip 1)
    | none, [] => some (gap, place)

/-- Reads the white space in front of a place. -/
def read? (tabColumn : Nat) (start : Gap) (place : Place) : Option (Gap × Place) :=
  readFrom tabColumn place.rest.length start place

end Gap

end Docsite.Yaml
