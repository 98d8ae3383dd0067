/-
**Tables written in hexadecimal.**

Larger tables of characters are kept as text: words of hexadecimal numbers with spaces or line feeds
between them.
-/

import Docsite.Text.Cut
import Docsite.Text.Numeral

namespace Docsite.Text.Hex

/-- The words of a text of several lines. -/
def words (s : String) : List (List Char) :=
  ((splitOn '\n' s.toList).flatMap (splitOn ' ')).filter (!·.isEmpty)

/-- The characters spelled by hexadecimal numbers with dots between them. -/
def chars (spelling : List Char) : List Char :=
  (splitOn '.' spelling).map fun digits => Char.ofNat (Numeral.value 16 digits)

end Docsite.Text.Hex
