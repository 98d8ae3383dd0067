/-
**Scalars.**

A scalar is a text, written plainly, between quotes, or as an indented block of lines.

* `Quoted.read?`, `Plain.read?`, `Block.read?`: a scalar in front of a place and the place behind
  it.
-/

import Docsite.Text.Numeral
import Docsite.Yaml.Place

namespace Docsite.Yaml

/-- How a scalar is written. -/
inductive Style where
  | plain
  | singleQuoted
  | doubleQuoted
  | literal
  | folded
  deriving DecidableEq, Repr

/-! ## Quoted scalars -/

namespace Quoted

/-- The character that an escape of one letter stands for. -/
def named? (c : Char) : Option Char :=
  match c with
  | '0' => some '\x00'
  | 'a' => some '\x07'
  | 'b' => some '\x08'
  | 't' | '\t' => some '\t'
  | 'n' => some '\n'
  | 'v' => some '\x0b'
  | 'f' => some '\x0c'
  | 'r' => some '\r'
  | 'e' => some '\x1b'
  | ' ' => some ' '
  | '\x22' => some '\x22'
  | '/' => some '/'
  | '\\' => some '\\'
  | 'N' => some '\u0085'
  | '_' => some '\u00A0'
  | 'L' => some '\u2028'
  | 'P' => some '\u2029'
  | _ => none

/-- How many hexadecimal digits follow the letter of an escape. -/
def digitCount? (c : Char) : Option Nat :=
  match c with
  | 'x' => some 2
  | 'u' => some 4
  | 'U' => some 8
  | _ => none

/-- Reads the escape from behind its backslash. -/
def escape? (place : Place) : Option (Char × Place) :=
  match place.rest with
  | [] => none
  | c :: rest =>
    match named? c, digitCount? c with
    | some d, _ => some (d, place.skip 1)
    | none, some count =>
      let digits := rest.take count
      if digits.length == count then
        (Text.Numeral.char? digits).map fun d => (d, place.skip (count + 1))
      else none
    | none, none => none

/-- Reads a scalar up to its closing quote; the characters read so far come last first. The fuel
bounds the length of the text. -/
def readFrom (single : Bool) : Nat → List Char → Place → Option (List Char × Place)
  | 0, _, _ => none
  | fuel + 1, done, place =>
    if place.atDocumentMarker then none
    else match place.rest with
      | [] => none
      | c :: rest =>
        let quote := if single then '\x27' else '\x22'
        if c == quote then
          if single && rest.head? == some quote then readFrom single fuel (c :: done) (place.skip 2)
          else some (done.reverse, place.skip 1)
        else if isSpace c then do
          let (gap, next) ← Gap.read? 0 {} place
          readFrom single fuel (gap.text.reverse ++ done) next
        else if c == '\\' && !single then
          match (place.skip 1).takeBreak? with
          | some (_, next) => do
            let (gap, next) ← Gap.read? 0 { first := some [] } next
            readFrom single fuel (gap.text.reverse ++ done) next
          | none => do
            let (d, next) ← escape? (place.skip 1)
            readFrom single fuel (d :: done) next
        else readFrom single fuel (c :: done) (place.skip 1)

/-- Reads a scalar from its opening quote on. -/
def read? (single : Bool) (place : Place) : Option (List Char × Place) :=
  readFrom single (place.rest.length + 1) [] (place.skip 1)

end Quoted

/-! ## Plain scalars -/

namespace Plain

/-- A character that separates the entries of a flow collection or encloses them. -/
def isFlowIndicator (c : Char) : Bool :=
  c == ',' || c == '[' || c == ']' || c == '\x7b' || c == '\x7d'

/-- A character that must not follow a colon inside a flow collection. -/
def refusesColon (c : Char) : Bool :=
  isFlowIndicator c || c == '?'

/-- The length of the word in front of a text. Inside a flow collection a colon must not stand right
before an indicator. -/
def wordLength? (inFlow : Bool) : List Char → Option Nat
  | [] => some 0
  | c :: rest =>
    if isSpace c then some 0
    else if inFlow && c == ':' && rest.head?.any refusesColon then none
    else if (c == ':' && atWordEnd rest) || (inFlow && isFlowIndicator c) then some 0
    else (wordLength? inFlow rest).map (· + 1)

/-- Reads the words of a scalar behind a gap; says last whether a line end was read behind the
scalar. The fuel bounds the length of the text. -/
def readFrom (inFlow : Bool) (indent : Nat) : Nat → List Char → Gap → Place →
    Option (List Char × Place × Bool)
  | 0, _, _, _ => none
  | fuel + 1, done, gap, place => do
    let finished := (done, place, gap.first.isSome)
    if place.atDocumentMarker || place.rest.head? == some '#' then return finished
    let length ← wordLength? inFlow place.rest
    if length == 0 then return finished
    let read := done ++ gap.text ++ place.rest.take length
    let behind := place.skip length
    match behind.rest with
    | c :: _ =>
      if !isSpace c then return (read, behind, false)
      let (gap, next) ← Gap.read? indent {} behind
      if !inFlow && next.column < indent then return (read, next, gap.first.isSome)
      readFrom inFlow indent fuel read gap next
    | [] => return (read, behind, false)

/-- Reads a scalar whose further lines are indented by at least `indent` columns, unless it stands
in a flow collection; says last whether a line end was read behind the scalar. -/
def read? (inFlow : Bool) (indent : Nat) (place : Place) : Option (List Char × Place × Bool) :=
  readFrom inFlow indent (place.rest.length + 1) [] {} place

end Plain

/-! ## Block scalars -/

namespace Block

/-- What becomes of the line ends behind a block. -/
inductive Chomping where
  | strip
  | clip
  | keep
  deriving DecidableEq, Repr

/-- What the header of a block says. -/
structure Header where
  chomping : Chomping := .clip
  /-- The indentation of the lines beyond that of the surrounding block. -/
  increment : Option Nat := none

/-- The chomping that a character asks for. -/
def chomping? (c : Char) : Option Chomping :=
  if c == '+' then some .keep else if c == '-' then some .strip else none

/-- The increment that a character asks for; zero is none. -/
def increment? (c : Char) : Option Nat :=
  if c.isDigit && c != '0' then Text.Numeral.digit? c else none

/-- The header in front of a text and its length. -/
def header? (cs : List Char) : Option (Header × Nat) :=
  match cs with
  | [] => some ({}, 0)
  | c :: rest =>
    match chomping? c with
    | some chomping =>
      match rest with
      | d :: _ =>
        if d.isDigit then (increment? d).map fun n => ({ chomping, increment := some n }, 2)
        else some ({ chomping }, 1)
      | [] => some ({ chomping }, 1)
    | none =>
      if c.isDigit then do
        let increment ← increment? c
        match rest.head?.bind chomping? with
        | some chomping => return ({ chomping, increment := some increment }, 2)
        | none => return ({ increment := some increment }, 1)
      else some ({}, 0)

/-- Reads the line ends in front of a line of the block and its indentation, up to `indent` columns
or, if that is not known, all. Gives the line ends, the place behind, and the largest column seen.
The fuel bounds the length of the text. -/
def breaksFrom (indent : Option Nat) : Nat → List Char → Nat → Place →
    Option (List Char × Place × Nat)
  | 0, _, _, _ => none
  | fuel + 1, breaks, largest, place =>
    let spaces := (place.rest.takeWhile (· == ' ')).length
    let start := place.skip (match indent with
      | some n => min spaces (n - place.column)
      | none => spaces)
    let largest := max largest start.column
    let indented := match indent with
      | some n => n ≤ start.column
      | none => false
    if !indented && start.rest.head? == some '\t' then none
    else match start.takeBreak? with
      | some (c, next) => breaksFrom indent fuel (breaks ++ [c]) largest next
      | none => some (breaks, start, largest)

/-- What joins two lines of a folded block: line ends that stand between words are folded like those
of a plain scalar. -/
def joint (folded : Bool) (first others : List Char) : List Char :=
  if folded && first == ['\n'] then (if others.isEmpty then [' '] else others) else first ++ others

/-- Reads the lines of a block of which the line ends `first` and `others` come next; `afterBlank`
says that the line before started with a blank. Gives the text, the line ends behind it and the
place. The fuel bounds the number of lines. -/
def linesFrom (folded : Bool) (indent : Nat) : Nat → List Char → List Char → List Char → Bool →
    Place → Option (List Char × List Char × List Char × Place)
  | 0, _, _, _, _, _ => none
  | fuel + 1, done, first, others, afterBlank, place =>
    if place.column != indent || place.rest.isEmpty then some (done, first, others, place)
    else do
      let startsBlank := (place.rest.head?.map isBlank).getD false
      let joint := joint (folded && !afterBlank && !startsBlank) first others
      let line := place.rest.takeWhile (!isBreak ·)
      let behind := place.skip line.length
      let (first, next) := match behind.takeBreak? with
        | some (c, next) => ([c], next)
        | none => ([], behind)
      let (others, next, _) ← breaksFrom (some indent) (next.rest.length + 1) [] 0 next
      linesFrom folded indent fuel (done ++ joint ++ line) first others startsBlank next

/-- The start of the line behind the header of a block. -/
def headerEnd? (place : Place) : Option Place :=
  let behind := place.skipWhile isBlank
  let behind := if behind.rest.head? == some '#' then behind.skipWhile (!isBreak ·) else behind
  match behind.takeBreak?, behind.rest with
  | some (_, next), _ => some next
  | none, [] => some behind
  | none, _ => none

/-- Reads a block from its indicator on. Inside a block that is indented to the column `outer`, its
lines are indented deeper. -/
def read? (folded : Bool) (outer : Option Nat) (place : Place) : Option (List Char × Place) := do
  let (header, length) ← header? (place.skip 1).rest
  let start ← headerEnd? (place.skip (1 + length))
  let declared := header.increment.map (outer.getD 0 + ·)
  let (leading, start, largest) ← breaksFrom declared (start.rest.length + 1) [] 0 start
  let indent := declared.getD (max largest (max ((outer.map (· + 1)).getD 0) 1))
  let (text, first, others, behind) ←
    linesFrom folded indent (start.rest.length + 1) [] [] leading false start
  let ending := match header.chomping with
    | .strip => []
    | .clip => first
    | .keep => first ++ others
  return (text ++ ending, behind)

end Block

end Docsite.Yaml
