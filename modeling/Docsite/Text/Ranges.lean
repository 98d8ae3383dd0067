/-
**Sets of characters.**

Larger sets of characters are kept as ranges of their numbers.

* `Ranges.ofText`: the set that a text in hexadecimal spells.
-/

import Docsite.Text.Hex

namespace Docsite.Text

/-- Consecutive numbers. -/
structure Range where
  first : Nat
  last : Nat
  deriving DecidableEq, Repr

namespace Range

/-- Whether a number lies in a range. -/
def holds (range : Range) (n : Nat) : Bool :=
  range.first ≤ n && n ≤ range.last

/-- The range that is spelled by its ends, or by its only number. -/
def ofWord? (word : List Char) : Option Range :=
  match (splitOn '-' word).map (Numeral.value 16) with
  | [only] => some { first := only, last := only }
  | [first, last] => some { first, last }
  | _ => none

end Range

/-- A set of characters. -/
abbrev Ranges := List Range

namespace Ranges

/-- The set that a text in hexadecimal spells. -/
def ofText (s : String) : Ranges :=
  (Hex.words s).filterMap Range.ofWord?

/-- Whether a set holds the character of a number. -/
def holds (ranges : Ranges) (n : Nat) : Bool :=
  ranges.any (·.holds n)

end Ranges

end Docsite.Text
