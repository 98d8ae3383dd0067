/-
**Punycode.**

A text is written in ASCII by its ASCII characters followed by the places and values of the others.
The distance from one insertion to the next is a number whose digits weigh more or less depending on
the distances before.

* `encode`, `decode?`: the spelling of a text, and the text of a spelling.
-/

namespace Docsite.Url.Punycode

/-! ## Digits -/

/-- The digit of a value below 36. -/
def digit (n : Nat) : Char :=
  if n < 26 then Char.ofNat (0x61 + n) else Char.ofNat (0x30 + n - 26)

/-- The value of a digit of either case. -/
def value? (c : Char) : Option Nat :=
  let n := c.toNat
  if 0x61 ≤ n && n ≤ 0x7A then some (n - 0x61)
  else if 0x41 ≤ n && n ≤ 0x5A then some (n - 0x41)
  else if 0x30 ≤ n && n ≤ 0x39 then some (n - 0x30 + 26)
  else none

/-! ## Weights -/

/-- The bias before the first distance. -/
def firstBias : Nat := 72

/-- The least value that the digit at a place may have without being the last one. -/
def threshold (bias place : Nat) : Nat :=
  if place ≤ bias then 1 else if place ≥ bias + 26 then 26 else place - bias

theorem threshold_pos (bias place : Nat) : 1 ≤ threshold bias place := by
  unfold threshold
  split
  · omega
  · split <;> omega

/-- How often a distance can be divided before it is small, times 36, and what is left of it. -/
def shrink (distance : Nat) : Nat × Nat :=
  if 455 < distance then
    let (steps, rest) := shrink (distance / 35)
    (steps + 36, rest)
  else (0, distance)
termination_by distance
decreasing_by omega

/-- The bias after a distance, with `count` characters placed so far. -/
def adapt (distance count : Nat) (isFirst : Bool) : Nat :=
  let damped := if isFirst then distance / 700 else distance / 2
  let (steps, rest) := shrink (damped + damped / count)
  steps + 36 * rest / (rest + 38)

/-! ## Writing -/

/-- The digits of a distance, from the given place on. -/
def digits (bias place distance : Nat) : List Char :=
  let least := threshold bias place
  if distance < least then [digit distance]
  else
    digit (least + (distance - least) % (36 - least)) ::
      digits bias (place + 36) ((distance - least) / (36 - least))
termination_by distance
decreasing_by
  have positive := threshold_pos bias place
  exact Nat.lt_of_le_of_lt (Nat.div_le_self _ _) (by omega)

/-- Where writing stands. -/
structure Writer where
  /-- The digits written so far. -/
  output : List Char := []
  distance : Nat := 0
  bias : Nat := firstBias
  /-- The number of characters placed so far. -/
  count : Nat

/-- Passes one character of the text while the characters of a value are written. -/
def Writer.pass (writer : Writer) (basic value : Nat) (c : Char) : Writer :=
  if c.toNat < value then { writer with distance := writer.distance + 1 }
  else if c.toNat == value then
    { output := writer.output ++ digits writer.bias 36 writer.distance
      distance := 0
      bias := adapt writer.distance (writer.count + 1) (writer.count == basic)
      count := writer.count + 1 }
  else writer

/-- Writes the characters of each of the given values, which ascend from `next` on. -/
def Writer.run (writer : Writer) (text : List Char) (basic next : Nat) : List Nat → Writer
  | [] => writer
  | value :: rest =>
    let moved := { writer with distance := writer.distance + (value - next) * (writer.count + 1) }
    let passed := text.foldl (fun writer c => writer.pass basic value c) moved
    { passed with distance := passed.distance + 1 }.run text basic (value + 1) rest

/-- The spelling of a text. -/
def encode (text : List Char) : List Char :=
  let basic := text.filter (·.toNat < 0x80)
  let values := ((text.filter (·.toNat ≥ 0x80)).map Char.toNat).mergeSort.eraseDups
  let writer : Writer := { count := basic.length }
  (if basic.isEmpty then [] else basic ++ ['-']) ++
    (writer.run text basic.length 0x80 values).output

/-! ## Reading -/

/-- The distance that digits spell from the given place on, and the digits behind it. -/
def readDistance? (bias place weight : Nat) : List Char → Option (Nat × List Char)
  | [] => none
  | c :: rest => do
    let n ← value? c
    let least := threshold bias place
    if n < least then return (n * weight, rest)
    let (more, behind) ← readDistance? bias (place + 36) (weight * (36 - least)) rest
    return (n * weight + more, behind)

/-- A text with the characters inserted whose distances follow. The fuel bounds their number. -/
def insertFrom (bias index value : Nat) (isFirst : Bool) : Nat → List Char → List Char →
    Option (List Char)
  | _, text, [] => some text
  | 0, _, _ => none
  | fuel + 1, text, spelled => do
    let (distance, rest) ← readDistance? bias 36 1 spelled
    let count := text.length + 1
    let reached := index + distance
    let value := value + reached / count
    let place := reached % count
    if value.isValidChar then
      insertFrom (adapt distance count isFirst) (place + 1) value false fuel
        (text.insertIdx place (Char.ofNat value)) rest
    else none

/-- The characters before the last hyphen, and those behind it; a hyphen in front does not count. -/
def splitAtHyphen (spelling : List Char) : List Char × List Char :=
  let behind := (spelling.reverse.takeWhile (· != '-')).reverse
  let before := spelling.take (spelling.length - behind.length - 1)
  if before.isEmpty then ([], spelling) else (before, behind)

/-- The text of a spelling. -/
def decode? (spelling : List Char) : Option (List Char) :=
  let (basic, rest) := splitAtHyphen spelling
  insertFrom firstBias 0 0x80 true rest.length basic rest

end Docsite.Url.Punycode
