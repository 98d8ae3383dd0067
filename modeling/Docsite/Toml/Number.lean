/-
**Numbers, dates and times.**

* `Number.read?`: the integer or the float that a word spells.
* `DateTime.read?`: the date or the time that a word spells, in normal form.
-/

import Docsite.Text.Numeral
import Docsite.Toml.Value

namespace Docsite.Toml

/-! ## Numbers -/

namespace Number

/-- The digits of a word in which single underscores may stand between digits. -/
def digits? (isDigit : Char → Bool) : List Char → Option (List Char)
  | [] => none
  | [c] => if isDigit c then some [c] else none
  | c :: '_' :: rest => if isDigit c then (digits? isDigit rest).map (c :: ·) else none
  | c :: rest => if isDigit c then (digits? isDigit rest).map (c :: ·) else none

/-- Whether a word starts with a minus, and the word without its sign. -/
def cutSign : List Char → Bool × List Char
  | '+' :: rest => (false, rest)
  | '-' :: rest => (true, rest)
  | cs => (false, cs)

/-- The digits of a whole number; a zero leads no other digit. -/
def whole? (cs : List Char) : Option (List Char) :=
  if cs.head? == some '0' && cs.length > 1 then none else digits? Char.isDigit cs

/-- An integer that fits 64 bits. -/
def ofInt? (n : Int) : Option Value :=
  if -0x8000000000000000 ≤ n && n < 0x8000000000000000 then some (.integer n) else none

/-- The integer that digits of another base spell. -/
def based? (base : Nat) (cs : List Char) : Option Value := do
  let digits ← digits? (Text.Numeral.isDigit base) cs
  ofInt? (Text.Numeral.value base digits)

/-- The integer that a word spells. -/
def integer? (cs : List Char) : Option Value :=
  match cs with
  | '0' :: 'x' :: rest => based? 16 rest
  | '0' :: 'o' :: rest => based? 8 rest
  | '0' :: 'b' :: rest => based? 2 rest
  | _ => do
    let (negative, rest) := cutSign cs
    let n := Text.Numeral.value 10 (← whole? rest)
    ofInt? (if negative then -n else n)

/-- The least number that is too large for a float of 64 bits. -/
def floatBound : Nat :=
  Nat.pow 2 1024 - Nat.pow 2 970

/-- Whether `n` times the given power of ten is too large for a float of 64 bits. -/
def isTooLarge (n : Nat) (exponent : Int) : Bool :=
  let size := (toString n).length + exponent
  if n == 0 || size < 300 then false
  else if size > 320 then true
  else match exponent with
    | .ofNat e => n * Nat.pow 10 e ≥ floatBound
    | .negSucc e => n ≥ floatBound * Nat.pow 10 (e + 1)

/-- The exponent that follows its mark. -/
def exponent? (cs : List Char) : Option Int := do
  let (negative, rest) := cutSign cs
  let n := Text.Numeral.value 10 (← digits? Char.isDigit rest)
  return if negative then -n else n

/-- The digits of a fraction, and the exponent behind it. -/
def fractionAndExponent? (cs : List Char) : Option (List Char × Int) := do
  let isMark (c : Char) : Bool := c == 'e' || c == 'E'
  let before := cs.takeWhile (!isMark ·)
  let fraction ← match before with
    | [] => some []
    | '.' :: digits => digits? Char.isDigit digits
    | _ => none
  match cs.drop before.length with
  | [] => return (fraction, 0)
  | _ :: exponent => return (fraction, ← exponent? exponent)

/-- The float that a word spells. -/
def float? (cs : List Char) : Option Value := do
  let (negative, rest) := cutSign cs
  if rest == ['i', 'n', 'f'] || rest == ['n', 'a', 'n'] then return .float (String.ofList cs)
  let front := rest.takeWhile fun c => c.isDigit || c == '_'
  guard (front.length < rest.length)
  let (fraction, exponent) ← fractionAndExponent? (rest.drop front.length)
  let n := Text.Numeral.value 10 ((← whole? front) ++ fraction)
  if !negative && isTooLarge n (exponent - fraction.length) then none
  else return .float (String.ofList cs)

/-- The number that a word spells. -/
def read? (cs : List Char) : Option Value :=
  integer? cs <|> float? cs

end Number

/-! ## Dates and times -/

namespace DateTime

/-- The number of `count` digits in front of a text, if it lies in a range, with the digits and the
text behind them. -/
def field? (count first last : Nat) (cs : List Char) : Option (Nat × List Char × List Char) :=
  let digits := cs.take count
  let n := Text.Numeral.value 10 digits
  if digits.length == count && digits.all Char.isDigit && first ≤ n && n ≤ last then
    some (n, digits, cs.drop count)
  else none

/-- The text behind a given character. -/
def behind? (c : Char) (cs : List Char) : Option (List Char) :=
  match cs with
  | first :: rest => if first == c then some rest else none
  | [] => none

/-- The number of days of a month. -/
def daysOf (year month : Nat) : Nat :=
  if month == 2 then
    if year % 4 == 0 && (year % 100 != 0 || year % 400 == 0) then 29 else 28
  else if month ∈ [4, 6, 9, 11] then 30
  else 31

/-- The date in front of a text, and the text behind it. -/
def date? (cs : List Char) : Option (List Char × List Char) := do
  let (year, yearDigits, rest) ← field? 4 0 9999 cs
  let (month, monthDigits, rest) ← field? 2 1 12 (← behind? '-' rest)
  let (_, dayDigits, rest) ← field? 2 1 (daysOf year month) (← behind? '-' rest)
  return (yearDigits ++ '-' :: monthDigits ++ '-' :: dayDigits, rest)

/-- The fraction of a second in front of a text, in at most nine digits and without zeros at its
end, and the text behind it. -/
def fraction? (cs : List Char) : Option (List Char × List Char) :=
  match cs with
  | '.' :: rest =>
    let digits := rest.takeWhile Char.isDigit
    let kept := ((digits.take 9).reverse.dropWhile (· == '0')).reverse
    if digits.isEmpty then none
    else some (if kept.isEmpty then [] else '.' :: kept, rest.drop digits.length)
  | _ => some ([], cs)

/-- The time in front of a text, and the text behind it. -/
def time? (cs : List Char) : Option (List Char × List Char) := do
  let (_, hour, rest) ← field? 2 0 23 cs
  let (_, minute, rest) ← field? 2 0 59 (← behind? ':' rest)
  let (_, second, rest) ← field? 2 0 60 (← behind? ':' rest)
  let (fraction, rest) ← fraction? rest
  return (hour ++ ':' :: minute ++ ':' :: second ++ fraction, rest)

/-- The distance from universal time that a word spells, if any. -/
def offset? (cs : List Char) : Option (List Char) :=
  match cs with
  | [] => some []
  | ['Z'] | ['z'] => some ['Z']
  | sign :: rest => do
    guard (sign == '+' || sign == '-')
    let (h, hour, rest) ← field? 2 0 23 rest
    let (m, minute, rest) ← field? 2 0 59 (← behind? ':' rest)
    guard rest.isEmpty
    return (if h == 0 && m == 0 then '+' else sign) :: hour ++ ':' :: minute

/-- The date or the time that a word spells. -/
def read? (cs : List Char) : Option Value :=
  match date? cs with
  | some (date, []) => some (.dateTime (String.ofList date))
  | some (date, delimiter :: rest) => do
    guard (delimiter ∈ ['T', 't', ' '])
    let (time, rest) ← time? rest
    return .dateTime (String.ofList (date ++ 'T' :: time ++ (← offset? rest)))
  | none => do
    let (time, rest) ← time? cs
    guard rest.isEmpty
    return .dateTime (String.ofList time)

end DateTime

/-! ## Words -/

/-- A character of a word that spells a value. -/
def isWordChar (c : Char) : Bool :=
  c.isAlphanum || c == '+' || c == '-' || c == '_' || c == '.' || c == ':'

/-- The value that a word spells. -/
def ofWord? (word : List Char) : Option Value :=
  if word == "true".toList then some (.boolean true)
  else if word == "false".toList then some (.boolean false)
  else Number.read? word <|> DateTime.read? word

/-- The value that the word in front of a text spells, and the text behind it. Between a date and a
time a space may stand. -/
def readWord? (cs : List Char) : Option (Value × List Char) :=
  let word := cs.takeWhile isWordChar
  let behind := cs.drop word.length
  let longer := match behind with
    | ' ' :: rest =>
      let time := rest.takeWhile isWordChar
      if (DateTime.date? word).map Prod.snd == some [] then
        (DateTime.read? (word ++ ' ' :: time)).map fun value => (value, rest.drop time.length)
      else none
    | _ => none
  longer <|> (ofWord? word).map fun value => (value, behind)

end Docsite.Toml
