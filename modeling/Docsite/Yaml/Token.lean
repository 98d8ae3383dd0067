/-
**Tokens.**

The marks and scalars of a YAML text, in order. Indentation shows as tokens of its own, which open
and close blocks. That a scalar is a key is known only from the colon behind it, on the same line
and within 1024 characters; its tokens are then put in front of it.

* `Scan.tokens?`: the tokens of a text.
-/

import Docsite.Yaml.Scalar

namespace Docsite.Yaml

/-- A mark or a scalar. -/
inductive Token where
  | version (major minor : Nat)
  /-- What a handle of tags stands for. -/
  | handle (name expansion : List Char)
  | documentStart
  | documentEnd
  | blockListStart
  | blockMapStart
  | blockEnd
  | flowListStart
  | flowListEnd
  | flowMapStart
  | flowMapEnd
  | blockEntry
  | flowEntry
  | key
  | value
  | reference (name : List Char)
  | anchor (name : List Char)
  | tag (handle suffix : List Char)
  | scalar (style : Style) (text : List Char)
  deriving DecidableEq, Repr

namespace Scan

/-! ## Names -/

/-- A character behind which an anchor may end without white space. -/
def endsAnchor (cs : List Char) : Bool :=
  match cs with
  | [] => true
  | c :: _ => isSpace c || c ∈ ['?', ':', ',', ']', '\x7d', '%', '@', '\x60']

/-- Reads the name of an anchor from behind its indicator. -/
def anchorName? (place : Place) : Option (List Char × Place) :=
  let name := place.rest.takeWhile isWordChar
  let behind := place.skip name.length
  if !name.isEmpty && endsAnchor behind.rest then some (name, behind) else none

/-! ## Tags -/

/-- A character of a tag; inside angle brackets a few more are allowed. -/
def isTagChar (enclosed : Bool) (c : Char) : Bool :=
  isWordChar c || c ∈ [';', '/', '?', ':', '@', '&', '=', '+', '$', '.', '!', '~', '*', '\x27', '(',
    ')', '%'] || (enclosed && c ∈ [',', '[', ']'])

/-- The number of bytes of the character that starts with a byte. -/
def byteCount? (first : Nat) : Option Nat :=
  if first < 0x80 then some 1
  else if 0xC0 ≤ first && first < 0xE0 then some 2
  else if 0xE0 ≤ first && first < 0xF0 then some 3
  else if 0xF0 ≤ first && first < 0xF8 then some 4
  else none

/-- The bytes of `count` percent triples in front of a text, which follow the first of a
character. -/
def triples? : Nat → List Char → Option (List Nat)
  | 0, _ => some []
  | count + 1, '%' :: a :: b :: rest => do
    let byte ← Text.Numeral.read? 16 [a, b]
    return byte :: (← triples? count rest)
  | _, _ => none

/-- The character that is written in percent triples in front of a text, and their number. -/
def escaped? (cs : List Char) : Option (Char × Nat) := do
  let first ← (← triples? 1 cs).head?
  let count ← byteCount? first
  let others := (← triples? count cs).tail
  if others.any (· / 0x40 != 2) then none
  else
    let lead := if count == 1 then first else first % Nat.pow 2 (7 - count)
    some (Char.ofNat (others.foldl (fun sum byte => 0x40 * sum + byte % 0x40) lead), count)

/-- Reads the characters of a tag. The fuel bounds the length of the text. -/
def tagCharsFrom (enclosed : Bool) : Nat → List Char → Place → Option (List Char × Place)
  | 0, done, place => some (done.reverse, place)
  | fuel + 1, done, place =>
    match place.rest with
    | [] => some (done.reverse, place)
    | c :: _ =>
      if !isTagChar enclosed c then some (done.reverse, place)
      else if c == '%' then do
        let (d, count) ← escaped? place.rest
        tagCharsFrom enclosed fuel (d :: done) (place.skip (3 * count))
      else tagCharsFrom enclosed fuel (c :: done) (place.skip 1)

/-- Reads the characters of a tag. -/
def tagChars? (enclosed : Bool) (place : Place) : Option (List Char × Place) :=
  tagCharsFrom enclosed place.rest.length [] place

/-- Reads the handle of a tag: an exclamation mark, and a name between two of them if there is a
second one. -/
def tagHandle? (place : Place) : Option (List Char × Place) :=
  match place.rest with
  | '!' :: rest =>
    let name := rest.takeWhile isWordChar
    let length := if rest[name.length]? == some '!' then name.length + 2 else name.length + 1
    some (place.rest.take length, place.skip length)
  | _ => none

/-- Reads a tag in angle brackets. -/
def enclosedTag? (place : Place) : Option (Token × Place) := do
  let (suffix, behind) ← tagChars? true (place.skip 2)
  if suffix.isEmpty || behind.rest.head? != some '>' then none
  else some (.tag [] suffix, behind.skip 1)

/-- Reads a tag with a handle. -/
def shortTag? (place : Place) : Option (Token × Place) := do
  let (handle, behind) ← tagHandle? place
  let (chars, next) ← tagChars? false behind
  if handle.length > 1 && handle.getLast? == some '!' then
    if chars.isEmpty then none else some (.tag handle chars, next)
  else
    let suffix := handle.drop 1 ++ chars
    some (if suffix.isEmpty then .tag [] ['!'] else .tag ['!'] suffix, next)

/-- Reads a tag. -/
def tag? (inFlow : Bool) (place : Place) : Option (Token × Place) := do
  let (token, behind) ← if place.rest[1]? == some '<' then enclosedTag? place else shortTag? place
  if atWordEnd behind.rest || (inFlow && behind.rest.head? == some ',') then some (token, behind)
  else none

/-! ## Directives -/

/-- Reads a number of at most nine digits. -/
def number? (place : Place) : Option (Nat × Place) :=
  let digits := place.rest.takeWhile Char.isDigit
  if 1 ≤ digits.length && digits.length ≤ 9 then
    some (Text.Numeral.value 10 digits, place.skip digits.length)
  else none

/-- Reads a version. -/
def version? (place : Place) : Option (Token × Place) := do
  let (major, behind) ← number? (place.skipWhile isBlank)
  guard (behind.rest.head? == some '.')
  let (minor, behind) ← number? (behind.skip 1)
  return (.version major minor, behind)

/-- Reads a handle and what it stands for. -/
def handle? (place : Place) : Option (Token × Place) := do
  let (name, behind) ← tagHandle? (place.skipWhile isBlank)
  guard (name == ['!'] || (name.length > 1 && name.getLast? == some '!'))
  guard ((behind.rest.head?.map isBlank).getD false)
  let (expansion, behind) ← tagChars? true (behind.skipWhile isBlank)
  guard (!expansion.isEmpty && atWordEnd behind.rest)
  return (.handle name expansion, behind)

/-- Reads a directive from its indicator on, with the end of its line. -/
def directive? (place : Place) : Option (Token × Place) := do
  let name := (place.skip 1).rest.takeWhile isWordChar
  let behind := place.skip (1 + name.length)
  guard (atWordEnd behind.rest)
  let (token, behind) ←
    if name == "YAML".toList then version? behind
    else if name == "TAG".toList then handle? behind
    else none
  return (token, ← Block.headerEnd? behind)

end Scan

/-! ## Scanning -/

/-- A token that turns out to be a key if a colon follows. -/
structure PossibleKey where
  /-- Whether it has to be one, because it stands where the keys of a block stand. -/
  required : Bool
  /-- The number of tokens before it. -/
  position : Nat
  index : Nat
  line : Nat
  column : Nat

/-- Where scanning stands. -/
structure Scan where
  place : Place
  tokens : Array Token := #[]
  /-- The columns of the open blocks, innermost first. -/
  indents : List Nat := []
  /-- What may be a key, on each level of flow collections, innermost first. -/
  keys : List (Option PossibleKey) := [none]
  /-- Whether a key may start here. -/
  keyAllowed : Bool := true

namespace Scan

/-- Whether a flow collection is open. -/
def inFlow (scan : Scan) : Bool :=
  scan.keys.length > 1

/-- The least column that is indented deeper than the innermost block. -/
def nextIndent (scan : Scan) : Nat :=
  (scan.indents.head?.map (· + 1)).getD 0

/-- Adds a token. -/
def push (scan : Scan) (token : Token) : Scan :=
  { scan with tokens := scan.tokens.push token }

/-- Puts a token behind the first `position` ones. -/
def insert (scan : Scan) (position : Nat) (token : Token) : Scan :=
  { scan with tokens :=
      scan.tokens.extract 0 position ++ #[token] ++ scan.tokens.extract position scan.tokens.size }

/-- Reads on from a place. -/
def goTo (scan : Scan) (place : Place) : Scan :=
  { scan with place }

/-- Closes the blocks that are indented by `limit` columns or more. -/
def closeBlocks (limit : Nat) (scan : Scan) : Scan :=
  if scan.inFlow then scan
  else
    let closed := scan.indents.takeWhile (limit ≤ ·)
    { scan with
      tokens := scan.tokens ++ Array.replicate closed.length Token.blockEnd
      indents := scan.indents.drop closed.length }

/-- Opens a block at a column that is indented deeper than the innermost one. -/
def openBlock (scan : Scan) (column position : Nat) (token : Token) : Scan :=
  if scan.inFlow || column < scan.nextIndent then scan
  else { (scan.insert position token) with indents := column :: scan.indents }

/-- Forgets what may be a key on the current level; one that has to be a key is an error. -/
def dropKey? (scan : Scan) : Option Scan :=
  match scan.keys with
  | some key :: outer => if key.required then none else some { scan with keys := none :: outer }
  | _ => some scan

/-- Remembers that the next token may be a key. -/
def saveKey? (scan : Scan) : Option Scan :=
  if !scan.keyAllowed then some scan
  else (dropKey? scan).map fun scan =>
    let key : PossibleKey :=
      { required := !scan.inFlow && scan.place.column + 1 == scan.nextIndent
        position := scan.tokens.size
        index := scan.place.index
        line := scan.place.line
        column := scan.place.column }
    { scan with keys := some key :: scan.keys.drop 1 }

/-- How many characters a key may be long. -/
def keyLimit : Nat := 1024

/-- Forgets what is too far back to be a key; one that has to be a key is an error. -/
def dropStaleKeys? (scan : Scan) : Option Scan := do
  let keys ← scan.keys.mapM fun
    | none => some none
    | some key =>
      if key.line < scan.place.line || key.index + keyLimit < scan.place.index then
        if key.required then none else some none
      else some (some key)
  return { scan with keys }

/-- Skips white space, comments and line ends in front of the next token. At the start of a line a
byte order mark is skipped too. The fuel bounds the length of the text. -/
def skipSpace : Nat → Scan → Scan
  | 0, scan => scan
  | fuel + 1, scan =>
    let place := scan.place
    let isMark := place.column == 0 && place.rest.head? == some '\uFEFF'
    let tabsCount := scan.inFlow || !scan.keyAllowed
    let start := if isMark then place.skip 1 else place
    let start := start.skipWhile fun c => c == ' ' || (c == '\t' && tabsCount)
    let start := if start.rest.head? == some '#' then start.skipWhile (!isBreak ·) else start
    match start.takeBreak? with
    | some (_, next) =>
      skipSpace fuel { scan with place := next, keyAllowed := scan.keyAllowed || !scan.inFlow }
    | none => scan.goTo start

/-- Starts a line without open blocks, as directives and the marks of documents do. -/
def startLine? (scan : Scan) : Option Scan :=
  (dropKey? (closeBlocks 0 scan)).map fun scan => { scan with keyAllowed := false }

/-- Reads a mark of three characters. -/
def documentMarker? (scan : Scan) (token : Token) : Option Scan :=
  (startLine? scan).map fun scan => (scan.push token).goTo (scan.place.skip 3)

/-- Opens a flow collection. -/
def openFlow? (scan : Scan) (token : Token) : Option Scan :=
  (saveKey? scan).map fun scan =>
    { scan.push token with
      keys := none :: scan.keys
      keyAllowed := true
      place := scan.place.skip 1 }

/-- Closes a flow collection. -/
def closeFlow? (scan : Scan) (token : Token) : Option Scan :=
  (dropKey? scan).map fun scan =>
    { scan.push token with
      keys := if scan.inFlow then scan.keys.drop 1 else scan.keys
      keyAllowed := false
      place := scan.place.skip 1 }

/-- Reads the comma between the entries of a flow collection. -/
def flowEntry? (scan : Scan) : Option Scan :=
  (dropKey? scan).map fun scan =>
    { scan.push .flowEntry with keyAllowed := true, place := scan.place.skip 1 }

/-- Reads the dash of a list entry. -/
def blockEntry? (scan : Scan) : Option Scan := do
  guard (scan.inFlow || scan.keyAllowed)
  let scan ← dropKey? (scan.openBlock scan.place.column scan.tokens.size .blockListStart)
  return { scan.push .blockEntry with keyAllowed := true, place := scan.place.skip 1 }

/-- Reads the mark of a key. -/
def key? (scan : Scan) : Option Scan := do
  guard (scan.inFlow || scan.keyAllowed)
  let scan ← dropKey? (scan.openBlock scan.place.column scan.tokens.size .blockMapStart)
  return { scan.push .key with keyAllowed := !scan.inFlow, place := scan.place.skip 1 }

/-- Reads the mark of a value. What may be a key before it now is one. -/
def value? (scan : Scan) : Option Scan := do
  let scan ← match scan.keys with
    | some key :: outer =>
      let marked := scan.insert key.position .key
      let opened := marked.openBlock key.column key.position .blockMapStart
      some { opened with keys := none :: outer, keyAllowed := false }
    | _ =>
      if !scan.inFlow && !scan.keyAllowed then none
      else
        let opened := scan.openBlock scan.place.column scan.tokens.size .blockMapStart
        some { opened with keyAllowed := !scan.inFlow }
  return (scan.push .value).goTo (scan.place.skip 1)

/-- Adds a token that was read at a place which may be that of a key. -/
def word? (scan : Scan) (read : Option (Token × Place)) : Option Scan := do
  let scan ← saveKey? scan
  let (token, behind) ← read
  return { scan.push token with keyAllowed := false, place := behind }

/-- Reads a plain scalar. -/
def plain? (scan : Scan) : Option Scan := do
  let saved ← saveKey? scan
  let (text, behind, crossed) ← Plain.read? scan.inFlow scan.nextIndent scan.place
  return { saved.push (.scalar .plain text) with keyAllowed := crossed, place := behind }

/-- Reads a block scalar. -/
def block? (scan : Scan) (folded : Bool) : Option Scan := do
  let scan ← dropKey? scan
  let (text, behind) ← Block.read? folded scan.indents.head? scan.place
  let style : Style := if folded then .folded else .literal
  return { scan.push (.scalar style text) with keyAllowed := true, place := behind }

/-- Reads a quoted scalar. -/
def quoted? (scan : Scan) (single : Bool) : Option Scan :=
  let style : Style := if single then .singleQuoted else .doubleQuoted
  let read := Quoted.read? single scan.place
  scan.word? (read.map fun (text, behind) => (.scalar style text, behind))

/-- Whether a plain scalar starts with a text. -/
def startsPlain (inFlow : Bool) (cs : List Char) : Bool :=
  match cs with
  | [] => false
  | c :: rest =>
    !(isSpace c || c ∈ ['-', '?', ':', ',', '[', ']', '\x7b', '\x7d', '#', '&', '*', '!', '|', '>',
        '\x27', '\x22', '%', '@', '\x60']) ||
      (c == '-' && !(rest.head?.map isBlank).getD false) ||
      (!inFlow && (c == '?' || c == ':') && !atWordEnd rest)

/-- Reads the next token, if the text goes on. -/
def next? (scan : Scan) : Option Scan :=
  let place := scan.place
  match place.rest with
  | [] => some scan
  | c :: rest =>
    if place.column == 0 && c == '%' then do
      let scan ← startLine? scan
      let (token, behind) ← directive? place
      return (scan.push token).goTo behind
    else if place.atMarker '-' then documentMarker? scan .documentStart
    else if place.atMarker '.' then documentMarker? scan .documentEnd
    else if c == '[' then openFlow? scan .flowListStart
    else if c == '\x7b' then openFlow? scan .flowMapStart
    else if c == ']' then closeFlow? scan .flowListEnd
    else if c == '\x7d' then closeFlow? scan .flowMapEnd
    else if c == ',' then flowEntry? scan
    else if c == '-' && atWordEnd rest then blockEntry? scan
    else if c == '?' && (scan.inFlow || atWordEnd rest) then key? scan
    else if c == ':' && (scan.inFlow || atWordEnd rest) then value? scan
    else if c == '*' then
      scan.word? ((anchorName? (place.skip 1)).map fun (name, behind) => (.reference name, behind))
    else if c == '&' then
      scan.word? ((anchorName? (place.skip 1)).map fun (name, behind) => (.anchor name, behind))
    else if c == '!' then scan.word? (tag? scan.inFlow place)
    else if c == '|' && !scan.inFlow then block? scan false
    else if c == '>' && !scan.inFlow then block? scan true
    else if c == '\x27' then quoted? scan true
    else if c == '\x22' then quoted? scan false
    else if startsPlain scan.inFlow (c :: rest) then plain? scan
    else none

/-- Reads all tokens. The fuel bounds the length of the text. -/
def run? : Nat → Scan → Option Scan
  | 0, _ => none
  | fuel + 1, scan => do
    let scan ← dropStaleKeys? (skipSpace (scan.place.rest.length + 1) scan)
    let scan := closeBlocks (scan.place.column + 1) scan
    if scan.place.rest.isEmpty then startLine? scan
    else run? fuel (← next? scan)

/-- The tokens of a text. -/
def tokens? (cs : List Char) : Option (List Token) :=
  if cs.all isAllowed then
    (run? (cs.length + 1) { place := { rest := cs } }).map fun scan => scan.tokens.toList
  else none

end Scan

end Docsite.Yaml
