/-
**Links of a Markdown page.**

* `MarkdownLink.extract`: every link of a page, in order, each with its line.
-/

import Docsite.Markdown.Inline
import Docsite.Route.Basic

namespace Docsite

/-- A link on a Markdown page. -/
structure MarkdownLink where
  target : String
  /-- The number of the line in the file that the link starts on; the first line is line one. -/
  line : Nat
  deriving DecidableEq, Repr

namespace MarkdownLink

/-! ## Parts of a target -/

/-- The target without its query and fragment. -/
def path (link : MarkdownLink) : String :=
  Route.cutSuffixes link.target

/-- Whether the target is a place on the page itself. -/
def isFragmentOnly (link : MarkdownLink) : Bool :=
  link.target.toList.head? == some '#'

/-- Whether the target is another Markdown file. -/
def isFileReference (link : MarkdownLink) : Bool :=
  ".md".toList.isSuffixOf link.path.toList || ".mdx".toList.isSuffixOf link.path.toList

/-! ## Extraction -/

/-- What the labels of a text stand for; the first definition of a label counts. -/
def labels (blocks : List Markdown.Block) : Markdown.Inline.Labels where
  definitions := blocks.filterMap fun
    | .definition label destination =>
      some (Markdown.Label.key label, Markdown.Destination.unescape false destination)
    | _ => none
  notes := blocks.filterMap fun
    | .note label => some (Markdown.Label.key label)
    | _ => none

/-- The target of every link of a text, in order, each with the number of characters before it.

References are looked up without a bound. A reader that guards against pages which repeat a long
definition stops looking them up once the destinations and titles it has put in for them come to as many
bytes as the text has, and to no fewer than 100000: on a page that stays below that, it finds these
links. -/
def found (content : List Char) : List (String × Nat) :=
  let blocks := Markdown.blocks (Markdown.Line.split content)
  let labels := labels blocks
  blocks.flatMap fun
    | .stretch text => Markdown.Inline.links labels text
    | _ => []

/-- The positions of the line feeds in a text. -/
def lineFeeds (content : List Char) : List Nat :=
  (content.zipIdx.filter (·.1 == '\n')).map Prod.snd

/-- Every link of a text, in order, each with its line; `offset` lines stand before the text in its
file. -/
def extract (content : String) (offset : Nat) : List MarkdownLink :=
  let feeds := lineFeeds content.toList
  (found content.toList).map fun (target, position) =>
    { target, line := feeds.countP (· < position) + 1 + offset }

end MarkdownLink

end Docsite
