/-
**HTML inside Markdown.**

Raw HTML takes its characters away from Markdown: inside a paragraph tag by tag, and as a block line
by line.

* `inline?`: the text behind a piece of raw HTML.
* `Block.start?`: whether a line opens a block of raw HTML, and how that block ends.
-/

import Docsite.Markdown.Line
import Docsite.Text.Cut

namespace Docsite.Markdown.Html

/-! ## Attributes -/

/-- The text behind white space, which may hold line ends if `acrossLines`. -/
def skipSpace (acrossLines : Bool) (cs : List Char) : List Char :=
  cs.dropWhile fun c => isLineSpace c || (acrossLines && isLineEnd c)

/-- Whether a character may start the name of an attribute. -/
def startsAttribute (c : Char) : Bool :=
  c.isAlpha || c == '_' || c == ':'

/-- Whether a character may continue the name of an attribute. -/
def continuesAttribute (c : Char) : Bool :=
  c.isAlphanum || c == '_' || c == ':' || c == '.' || c == '-'

/-- Whether a character ends a value without quotes. -/
def endsBareValue (c : Char) : Bool :=
  isSpace c || c == '\x22' || c == '\x27' || c == '=' || c == '<' || c == '>' || c == '\x60'

/-- The text behind a value in the given quotes. -/
def quotedValue? (acrossLines : Bool) (quote : Char) : List Char → Option (List Char)
  | [] => none
  | c :: rest =>
    if c == quote then some rest
    else if isLineEnd c && !acrossLines then none
    else quotedValue? acrossLines quote rest

/-- The text behind the value of an attribute. -/
def value? (acrossLines : Bool) (cs : List Char) : Option (List Char) :=
  match cs with
  | '\x22' :: rest => quotedValue? acrossLines '\x22' rest
  | '\x27' :: rest => quotedValue? acrossLines '\x27' rest
  | c :: rest => if endsBareValue c then none else some (rest.dropWhile (!endsBareValue ·))
  | [] => none

/-- The text behind an attribute. -/
def attribute? (acrossLines : Bool) (cs : List Char) : Option (List Char) :=
  match cs with
  | c :: rest =>
    if startsAttribute c then
      let behindName := rest.dropWhile continuesAttribute
      match skipSpace acrossLines behindName with
      | '=' :: more => value? acrossLines (skipSpace acrossLines more)
      | _ => some behindName
    else none
  | [] => none

/-- The text behind the attributes of a tag and its closing bracket. The fuel bounds the number of
attributes. -/
def attributes? (acrossLines : Bool) : Nat → List Char → Option (List Char)
  | 0, _ => none
  | fuel + 1, cs =>
    match skipSpace acrossLines cs with
    | '>' :: rest | '/' :: '>' :: rest => some rest
    | next => do
      guard (next.length < cs.length)
      attributes? acrossLines fuel (← attribute? acrossLines next)

/-! ## Tags -/

/-- The text behind the name of a tag. -/
def tagName? (cs : List Char) : Option (List Char) :=
  match cs with
  | c :: rest => if c.isAlpha then some (rest.dropWhile fun c => c.isAlphanum || c == '-') else none
  | [] => none

/-- The text behind a tag, from behind its opening bracket. -/
def tag? (acrossLines : Bool) (cs : List Char) : Option (List Char) :=
  match cs with
  | '/' :: rest => do
    match skipSpace false (← tagName? rest) with
    | '>' :: behind => some behind
    | _ => none
  | _ => do
    let behindName ← tagName? cs
    attributes? acrossLines (behindName.length + 1) behindName

/-- The text behind a comment, from behind its opening `<!--`. -/
def comment? (cs : List Char) : Option (List Char) :=
  match cs with
  | '>' :: rest | '-' :: '>' :: rest => some rest
  | _ => (Text.cutAt? "-->".toList cs).map Prod.snd

/-- The text behind a piece of raw HTML, from behind its opening bracket. -/
def inline? (cs : List Char) : Option (List Char) :=
  match cs with
  | '!' :: '-' :: '-' :: rest => comment? rest
  | '!' :: rest =>
    match Text.dropFront? "[CDATA[".toList rest with
    | some data => (Text.cutAt? "]]>".toList data).map Prod.snd
    | none =>
      if (rest.head?.map Char.isAlpha).getD false then (Text.cutAt? ['>'] rest).map Prod.snd
      else none
  | '?' :: rest => (Text.cutAt? "?>".toList rest).map Prod.snd
  | _ => tag? true cs

/-! ## Blocks -/

/-- How a block of raw HTML ends. -/
inductive BlockEnd where
  /-- With the first line that holds this text. -/
  | atText (text : List Char)
  /-- Before the first blank line. -/
  | atBlank
  deriving Repr

/-- Elements whose content is not Markdown up to their closing tag. -/
def verbatimElements : List String :=
  ["pre", "style", "script", "textarea"]

/-- Elements whose tags open a block. -/
def blockElements : List String :=
  ["address", "article", "aside", "base", "basefont", "blockquote", "body", "caption", "center",
    "col", "colgroup", "dd", "details", "dialog", "dir", "div", "dl", "dt", "fieldset",
    "figcaption", "figure", "footer", "form", "frame", "frameset", "h1", "h2", "h3", "h4", "h5",
    "h6", "head", "header", "hr", "html", "iframe", "legend", "li", "link", "main", "menu",
    "menuitem", "nav", "noframes", "ol", "optgroup", "option", "p", "param", "search", "section",
    "summary", "table", "tbody", "td", "tfoot", "th", "thead", "title", "tr", "track", "ul"]

/-- Whether a text starts with a word, whatever the case of its ASCII letters. -/
def startsWithWord (word : List Char) (cs : List Char) : Bool :=
  (cs.take word.length).map Char.toLower == word

/-- The text that ends a verbatim block opened by the given text behind a bracket. -/
def verbatimEnd? (cs : List Char) : Option (List Char) :=
  let element := verbatimElements.find? fun name =>
    startsWithWord name.toList cs &&
      match cs.drop name.length with
      | [] => true
      | c :: _ => isSpace c || c == '>'
  match element with
  | some name => some ("</".toList ++ name.toList ++ ['>'])
  | none =>
    if "!--".toList.isPrefixOf cs then some "-->".toList
    else if ['?'].isPrefixOf cs then some "?>".toList
    else if "![CDATA[".toList.isPrefixOf cs then some "]]>".toList
    else match cs with
      | '!' :: c :: _ => if c.isAlpha then some ['>'] else none
      | _ => none

/-- Whether the text behind a bracket is a tag that opens a block. -/
def opensBlock (cs : List Char) : Bool :=
  let tail := match cs with
    | '/' :: rest => rest
    | _ => cs
  let name := tail.takeWhile Char.isAlphanum
  blockElements.contains (String.ofList (name.map Char.toLower)) &&
    match tail.drop name.length with
    | [] | '>' :: _ | '/' :: '>' :: _ => true
    | c :: _ => c == ' ' || c == '\t'

/-- How a block ends that the rest of a line opens even in the middle of a paragraph. -/
def interruptingStart? (cs : List Char) : Option BlockEnd :=
  match cs with
  | '<' :: rest =>
    match verbatimEnd? rest with
    | some text => some (.atText text)
    | none => if opensBlock rest then some .atBlank else none
  | _ => none

/-- How a block ends that the rest of a line opens. -/
def blockStart? (cs : List Char) : Option BlockEnd :=
  match interruptingStart? cs, cs with
  | some blockEnd, _ => some blockEnd
  | none, '<' :: rest =>
    match tag? false rest with
    | some behind => if isBlankLine behind then some .atBlank else none
    | none => none
  | none, _ => none

end Docsite.Markdown.Html
