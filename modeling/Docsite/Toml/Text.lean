/-
**Strings, keys and comments.**

* `Text.read?`: the string in front of a text, in any of its four spellings.
* `Text.key?`: the dotted key in front of a text.
* `Text.lineEnd?`: the text behind the end of a line.
-/

import Docsite.Text.Numeral

namespace Docsite.Toml.Text

/-! ## White space and comments -/

/-- White space inside a line. -/
def isBlank (c : Char) : Bool :=
  c == ' ' || c == '\t'

/-- A text without blanks in front. -/
def skipBlanks (cs : List Char) : List Char :=
  cs.dropWhile isBlank

/-- A character that may stand in a comment or a string: no control character but the tab. -/
def isPlain (c : Char) : Bool :=
  c == '\t' || (c.toNat ≥ 0x20 && c.toNat != 0x7F)

/-- The text behind a line end. -/
def newline? (cs : List Char) : Option (List Char) :=
  match cs with
  | '\n' :: rest | '\r' :: '\n' :: rest => some rest
  | _ => none

/-- The text behind a comment in front of a text; the text itself if there is none. -/
def skipComment (cs : List Char) : List Char :=
  match cs with
  | '#' :: rest => rest.dropWhile isPlain
  | _ => cs

/-- The text behind the end of a line, before which blanks and a comment may stand. -/
def lineEnd? (cs : List Char) : Option (List Char) :=
  match skipComment (skipBlanks cs) with
  | [] => some []
  | rest => newline? rest

/-- The text behind blanks, line ends and comments. The fuel bounds the number of lines. -/
def skipLines : Nat → List Char → Option (List Char)
  | 0, cs => some cs
  | fuel + 1, cs =>
    match skipBlanks cs with
    | c :: rest =>
      if c == '#' || c == '\n' || c == '\r' then do
        skipLines fuel (← newline? (skipComment (c :: rest)))
      else some (c :: rest)
    | [] => some []

/-! ## Strings -/

/-- The character that `count` hexadecimal digits in front of a text stand for, and the text behind
them. -/
def numbered? (count : Nat) (cs : List Char) : Option (Char × List Char) := do
  let digits := cs.take count
  guard (digits.length == count)
  return (← Docsite.Text.Numeral.char? digits, cs.drop count)

/-- The character that an escape stands for, from behind its backslash, and the text behind it. -/
def escape? (cs : List Char) : Option (Char × List Char) :=
  match cs with
  | 'b' :: rest => some ('\x08', rest)
  | 'f' :: rest => some ('\x0c', rest)
  | 'n' :: rest => some ('\n', rest)
  | 'r' :: rest => some ('\r', rest)
  | 't' :: rest => some ('\t', rest)
  | '\\' :: rest => some ('\\', rest)
  | '\x22' :: rest => some ('\x22', rest)
  | 'u' :: rest => numbered? 4 rest
  | 'U' :: rest => numbered? 8 rest
  | _ => none

/-- The text of a string of one line up to its closing quote. The fuel bounds the length of the
text. -/
def lineFrom (quote : Char) : Nat → List Char → Option (List Char × List Char)
  | 0, _ | _, [] => none
  | fuel + 1, c :: rest =>
    if c == quote then some ([], rest)
    else if c == '\\' && quote == '\x22' then do
      let (d, rest) ← escape? rest
      let (text, behind) ← lineFrom quote fuel rest
      return (d :: text, behind)
    else if isPlain c then (lineFrom quote fuel rest).map fun (text, behind) => (c :: text, behind)
    else none

/-- The text behind blanks and line ends. -/
def skipGap (cs : List Char) : List Char :=
  match cs with
  | ' ' :: rest | '\t' :: rest | '\n' :: rest | '\r' :: '\n' :: rest => skipGap rest
  | _ => cs

/-- The text behind a backslash at the end of a line and all white space behind it. -/
def skipFold? (cs : List Char) : Option (List Char) :=
  (newline? (skipBlanks cs)).map skipGap

/-- The text of a string of several lines up to its three closing quotes; one or two more quotes in
front of them belong to it. The fuel bounds the length of the text. -/
def linesFrom (quote : Char) : Nat → List Char → Option (List Char × List Char)
  | 0, _ | _, [] => none
  | fuel + 1, c :: rest =>
    let add (d : Char) : List Char × List Char → List Char × List Char :=
      fun (text, behind) => (d :: text, behind)
    if c == quote then
      let run := ((c :: rest).takeWhile (· == quote)).length
      if run ≥ 3 then
        let count := min run 5
        some (List.replicate (count - 3) quote, (c :: rest).drop count)
      else (linesFrom quote fuel rest).map (add c)
    else if c == '\\' && quote == '\x22' then
      match skipFold? rest with
      | some behind => linesFrom quote fuel behind
      | none => do
        let (d, rest) ← escape? rest
        (linesFrom quote fuel rest).map (add d)
    else match newline? (c :: rest) with
      | some next => (linesFrom quote fuel next).map (add '\n')
      | none => if isPlain c then (linesFrom quote fuel rest).map (add c) else none

/-- The string in front of a text, from its opening quote on, and the text behind it. -/
def read? (cs : List Char) : Option (String × List Char) :=
  let spelled := match cs with
    | q₀ :: q₁ :: q₂ :: rest =>
      if q₀ == q₁ && q₁ == q₂ then linesFrom q₀ (rest.length + 1) ((newline? rest).getD rest)
      else lineFrom q₀ cs.length (q₁ :: q₂ :: rest)
    | quote :: rest => lineFrom quote cs.length rest
    | [] => none
  spelled.map fun (text, behind) => (String.ofList text, behind)

/-! ## Keys -/

/-- A character of a key without quotes. -/
def isKeyChar (c : Char) : Bool :=
  c.isAlphanum || c == '_' || c == '-'

/-- The single key in front of a text, and the text behind it. -/
def simpleKey? (cs : List Char) : Option (String × List Char) :=
  match cs with
  | [] => none
  | c :: rest =>
    if c == '\x22' || c == '\x27' then
      (lineFrom c cs.length rest).map fun (text, behind) => (String.ofList text, behind)
    else
      let key := cs.takeWhile isKeyChar
      if key.isEmpty then none else some (String.ofList key, cs.drop key.length)

/-- How many single keys a dotted key may have. -/
def keyLimit : Nat := 79

/-- The dotted key in front of a text, and the text behind it and the blanks around it. The fuel
bounds the number of single keys. -/
def keyFrom : Nat → List Char → Option (List String × List Char)
  | 0, _ => none
  | fuel + 1, cs => do
    let (key, behind) ← simpleKey? (skipBlanks cs)
    match skipBlanks behind with
    | '.' :: rest => do
      let (keys, behind) ← keyFrom fuel rest
      return (key :: keys, behind)
    | rest => return ([key], rest)

/-- The dotted key in front of a text, and the text behind it and the blanks around it. -/
def key? (cs : List Char) : Option (List String × List Char) :=
  keyFrom keyLimit cs

end Docsite.Toml.Text
