/-
**Ordering numbers.**

A file or directory may carry a number in front of its name, such as `01-` or `3.`, that orders it
among its siblings and is no part of its route. The number is followed by separators, with optional
white space around them, and the name behind must not start with a separator or a blank.

* `strip`: the name behind the number, or the whole text where there is none.
-/

import Docsite.Text.Blank
import Docsite.Text.Digit

namespace Docsite.Route.NumberPrefix

/-- Whether a character separates an ordering number from the name behind it. -/
def isSeparator (c : Char) : Bool :=
  c == '-' || c == '_' || c == '.'

/-- Whether a name may start with a character. -/
def startsName (c : Char) : Bool :=
  !isSeparator c && !Text.isBlank c

/-- The name behind an ordering number in front of `segment`. -/
def name? (segment : List Char) : Option (List Char) :=
  let behindNumber := segment.dropWhile Text.isDecimalDigit
  let marks := behindNumber.dropWhile Text.isBlank
  let behindMarks := marks.dropWhile isSeparator
  let name := behindMarks.dropWhile Text.isBlank
  if behindNumber.length < segment.length && behindMarks.length < marks.length &&
      (name.head?.map startsName).getD false && !name.contains '\n' then
    some name
  else none

/-- A path segment without its ordering number. -/
def strip (segment : String) : String :=
  ((name? segment.toList).map String.ofList).getD segment

end Docsite.Route.NumberPrefix
