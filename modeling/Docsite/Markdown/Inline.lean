/-
**Links in running text.**

Brackets in running text are matched like parentheses. A closing bracket makes a link of its opening
one if a destination or a defined label follows, or if the text between them is a defined label
itself. Code, raw HTML and addresses in angle brackets take their characters away, and a link holds
no other link.

* `links`: the destinations of the links in a stretch of text, each with its position.
-/

import Docsite.Markdown.Block

namespace Docsite.Markdown.Inline

/-! ## Addresses in angle brackets -/

/-- The text behind an absolute address and its closing bracket. -/
def addressEnd? (cs : List Char) : Option (List Char) :=
  match cs with
  | c :: rest =>
    let scheme := rest.takeWhile fun c => c.isAlphanum || c == '.' || c == '-' || c == '+'
    match rest.drop scheme.length with
    | ':' :: path =>
      if c.isAlpha && 1 ≤ scheme.length && scheme.length ≤ 31 then
        match path.dropWhile fun c => !(c == '>' || c == '<' || c.toNat ≤ 0x20) with
        | '>' :: behind => some behind
        | _ => none
      else none
    | _ => none
  | [] => none

/-- Whether a character may stand before the `@` of a mail address. -/
def isMailChar (c : Char) : Bool :=
  c.isAlphanum || c ∈ ['.', '!', '#', '$', '%', '&', '\x27', '*', '+', '/', '=', '?', '^', '_',
    '\x60', '\x7b', '|', '\x7d', '~', '-']

/-- Whether a text is a part of the domain of a mail address. -/
def isMailLabel (label : List Char) : Bool :=
  1 ≤ label.length && label.length ≤ 63 && label.head? != some '-' && label.getLast? != some '-'

/-- The text behind a mail address and its closing bracket. -/
def mailEnd? (cs : List Char) : Option (List Char) :=
  let user := cs.takeWhile isMailChar
  match user, cs.drop user.length with
  | _ :: _, '@' :: rest =>
    let domain := rest.takeWhile fun c => c.isAlphanum || c == '-' || c == '.'
    match rest.drop domain.length with
    | '>' :: behind => if (Text.splitOn '.' domain).all isMailLabel then some behind else none
    | _ => none
  | _, _ => none

/-- The text behind whatever an angle bracket opens that is no running text. -/
def angleEnd? (cs : List Char) : Option (List Char) :=
  if cs.head? == some '\\' then none
  else addressEnd? cs <|> mailEnd? cs <|> Html.inline? cs

/-! ## Code -/

/-- The text behind the next run of exactly `length` backticks; `run` counts the backticks read just
before. -/
def codeEnd? (length run : Nat) : List Char → Option (List Char)
  | [] => if run == length then some [] else none
  | c :: rest =>
    if c == '\x60' then codeEnd? length (run + 1) rest
    else if run == length then some (c :: rest)
    else codeEnd? length 0 rest

/-- The text behind the code that a run of backticks opens, or behind the run. Of a run behind a
backslash the first backtick does not count. -/
def behindCode (escaped : Bool) (cs : List Char) : List Char :=
  let run := (cs.takeWhile (· == '\x60')).length
  let behind := cs.drop run
  let length := if escaped then run - 1 else run
  if length == 0 then behind else (codeEnd? length 0 behind).getD behind

/-! ## Closing brackets -/

/-- What the labels in a text stand for. -/
structure Labels where
  /-- The destination of each defined label, by its key. -/
  definitions : List (List Char × List Char)
  /-- The keys of the footnotes. -/
  notes : List (List Char)

/-- What an opening bracket may still become. -/
inductive Role where
  | link
  | image
  /-- Nothing: a link was found behind it. -/
  | spent
  deriving DecidableEq, Repr

/-- An opening bracket. -/
structure Opener where
  role : Role
  /-- The text from the bracket on; for an image from its exclamation mark on. -/
  start : List Char
  /-- The text behind the bracket. -/
  inner : List Char

/-- Where reading stands: the brackets that are open, innermost first, and the links found so far,
last first. -/
structure State where
  openers : List Opener := []
  /-- Closing brackets, by the length of the text behind them, whose label is known to name
  nothing. -/
  useless : List Nat := []
  links : List (Opener × List Char) := []

/-- What follows a closing bracket. -/
inductive Follow where
  /-- A destination in parentheses. -/
  | destination (chars rest : List Char)
  /-- A label in brackets. -/
  | label (chars rest : List Char)
  /-- An empty pair of brackets. -/
  | emptyLabel (rest : List Char)
  | nothing

/-- The destination in parentheses in front of a text. -/
def destination? (inTable : Bool) (cs : List Char) : Option (List Char × List Char) :=
  match cs with
  | '(' :: rest =>
    match Destination.read? (Destination.skipSeparator rest) with
    | none => none
    | some (chars, behind) =>
      let behind := Destination.skipSeparator behind
      let behind := match Destination.skipTitle? behind with
        | some more => Destination.skipSeparator more
        | none => behind
      match behind with
      | ')' :: rest => some (Destination.unescape inTable chars, rest)
      | _ => none
  | _ => none

/-- The label in front of a text and what follows it; the label of a footnote is told apart. -/
def readLabel? (inTable : Bool) (cs : List Char) : Option (Bool × List Char × List Char) :=
  let plain := (Label.read? inTable cs).map fun (label, rest) => (false, label, rest)
  match cs with
  | '^' :: rest =>
    if rest.head? == some ']' then plain
    else match Label.read? inTable rest with
      | some (label, behind) =>
        if (rest.take (rest.length - behind.length)).any isLineEnd then plain
        else some (true, label, behind)
      | none => plain
  | _ => plain

/-- What follows a closing bracket. -/
def follow (inTable : Bool) (cs : List Char) : Follow :=
  match destination? inTable cs with
  | some (chars, rest) => .destination chars rest
  | none =>
    match cs with
    | '[' :: ']' :: rest => .emptyLabel rest
    | '[' :: inner =>
      match readLabel? inTable inner with
      | some (false, label, rest) => .label label rest
      | _ => .nothing
    | _ => .nothing

/-- The state after a link was found: brackets around it cannot become links any more. -/
def State.addLink (state : State) (opener : Opener) (openers : List Opener)
    (destination : List Char) : State :=
  match opener.role with
  | .link =>
    { state with
      openers := openers.map fun o => if o.role == .link then { o with role := .spent } else o
      links := (opener, destination) :: state.links }
  | _ => { state with openers }

/-- The state and the text behind a closing bracket, whose label is the text since its opening
one. -/
def closeByLabel (labels : Labels) (inTable : Bool) (state : State) (opener : Opener)
    (openers : List Opener) (behind behindLink : List Char) : State × List Char :=
  let without := ({ state with openers }, behind)
  match readLabel? inTable opener.inner with
  | some (isNote, label, rest) =>
    if rest.length != behind.length then without
    else if isNote then
      if labels.notes.contains (Label.key label) then ({ state with openers := [] }, behind)
      else without
    else match labels.definitions.lookup (Label.key label) with
      | some destination => (state.addLink opener openers destination, behindLink)
      | none => without
  | none => without

/-- The state and the text after a closing bracket with `behind` behind it. -/
def close (labels : Labels) (inTable : Bool) (state : State) (behind : List Char) :
    State × List Char :=
  match state.openers with
  | [] => (state, behind)
  | opener :: openers =>
    if opener.role == .spent then ({ state with openers }, behind)
    else match follow inTable behind with
      | .destination chars rest => (state.addLink opener openers chars, rest)
      | .label label rest =>
        match labels.definitions.lookup (Label.key label) with
        | some destination => (state.addLink opener openers destination, rest)
        | none => ({ state with openers, useless := rest.length :: state.useless }, behind)
      | .emptyLabel rest =>
        if state.useless.contains behind.length then ({ state with openers }, behind)
        else closeByLabel labels inTable state opener openers behind rest
      | .nothing =>
        if state.useless.contains behind.length then ({ state with openers }, behind)
        else closeByLabel labels inTable state opener openers behind behind

/-! ## Running text -/

/-- The state after a text was read. The fuel bounds the length of the text. -/
def readFrom (labels : Labels) (inTable : Bool) : Nat → State → List Char → State
  | 0, state, _ => state
  | _ + 1, state, [] => state
  | fuel + 1, state, c :: rest =>
    match c, rest with
    | '\\', d :: more =>
      if d == '\x60' then readFrom labels inTable fuel state (behindCode true rest)
      else if isPunctuation d then readFrom labels inTable fuel state more
      else readFrom labels inTable fuel state rest
    | '\x60', _ => readFrom labels inTable fuel state (behindCode false (c :: rest))
    | '<', _ => readFrom labels inTable fuel state ((angleEnd? rest).getD rest)
    | '!', '[' :: more =>
      let opener : Opener := { role := .image, start := c :: rest, inner := more }
      readFrom labels inTable fuel { state with openers := opener :: state.openers } more
    | '[', _ =>
      let opener : Opener := { role := .link, start := c :: rest, inner := rest }
      readFrom labels inTable fuel { state with openers := opener :: state.openers } rest
    | ']', _ =>
      let (state, behind) := close labels inTable state rest
      readFrom labels inTable fuel state behind
    | _, _ => readFrom labels inTable fuel state rest

/-- The destinations of the links in a stretch of text, each with the number of characters of the
whole text before it. -/
def links (labels : Labels) (text : Stretch) : List (String × Nat) :=
  let chars := text.chars
  let length := chars.length
  let state := readFrom labels text.inTable length {} chars
  state.links.reverse.map fun (opener, destination) =>
    (String.ofList destination, positionIn text.lines (length - opener.start.length))

end Docsite.Markdown.Inline
