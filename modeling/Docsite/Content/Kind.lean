/-
**Kinds of content.**

The three parts of a site that files can belong to, and which files count as content in each.
-/

import Docsite.Path
import Docsite.Text.Cut

namespace Docsite

/-- The part of a site that a file belongs to. -/
inductive ContentKind where
  /-- Documentation pages. -/
  | doc
  /-- Standalone pages. -/
  | page
  /-- Files that are served as they are. -/
  | static
  deriving DecidableEq, Repr

namespace ContentKind

/-- The name of a kind in messages. -/
def label : ContentKind → String
  | .doc => "Doc"
  | .page => "Page"
  | .static => "Static"

/-- Whether an extension marks a file as Markdown. -/
def isMarkdownExtension (extension : String) : Bool :=
  extension ∈ ["md", "mdx"]

/-- The extensions of standalone pages. -/
def pageExtensions : List String :=
  ["md", "mdx", "js", "jsx", "ts", "tsx", "html"]

/-- Whether a file or one of the directories above it starts with an underscore. -/
def isPrivate (relative : Path) : Bool :=
  relative.names.any fun name => name.toList.head? == some '_'

/-- Whether a file at `relative` inside the directory of this kind is content. -/
def accepts (kind : ContentKind) (relative : Path) : Bool :=
  match kind with
  | .static => true
  | .doc => isMarkdownExtension relative.extension && !isPrivate relative
  | .page =>
    pageExtensions.contains relative.extension && !isPrivate relative &&
      !Text.occursIn ".test.".toList (relative.fileName?.getD "").toList

end ContentKind

end Docsite
