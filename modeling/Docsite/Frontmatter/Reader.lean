/-
**Reading frontmatter.**

A page may start with a block of YAML between two marks of three dashes. The block ends at the first
line that starts with the mark.

* `Frontmatter.split`: the frontmatter of a page and the text behind it.
-/

import Docsite.Declaration.Dialect
import Docsite.Frontmatter.Basic
import Docsite.Text.Blank
import Docsite.Yaml.Dialect

namespace Docsite

/-- Why the frontmatter of a page cannot be used. -/
inductive FrontmatterError where
  /-- The block has no end. -/
  | unclosed
  /-- The block is not YAML, or its keys do not have the values they need. -/
  | invalidYaml
  deriving DecidableEq, Repr

/-- The wording of an error. -/
def FrontmatterError.message : FrontmatterError → String
  | .unclosed => "Unclosed frontmatter block - missing closing ---"
  | .invalidYaml => "Invalid YAML in frontmatter: "

namespace Frontmatter

/-- The keys of frontmatter. -/
def keys : SectionKeys :=
  [("id", false), ("title", false), ("slug", false), ("draft", false)]

/-- The frontmatter that a value stands for. -/
def ofValue? {α : Type} (dialect : Dialect α) (value : α) : Option Frontmatter := do
  let fields ← Fields.of? dialect keys value
  let id ← fields.text? dialect "id"
  let title ← fields.text? dialect "title"
  let slug ← fields.text? dialect "slug"
  let draft ← match fields.get? "draft" with
    | none => some false
    | some value => dialect.flag? value
  return { id, title, slug, draft }

/-- The frontmatter that a block of YAML spells; an empty block says nothing. -/
def ofBlock? (block : String) : Option Frontmatter :=
  if block == "" then some {}
  else do
    let document ← Yaml.Document.read? block
    ofValue? (Yaml.dialect document) document.root

/-- The mark before and behind a block. -/
def mark : List Char :=
  ['-', '-', '-']

/-- The frontmatter of a page and the text behind it. A page that does not start with the mark,
white space aside, has none. -/
def split (source : String) : Except FrontmatterError (Option Frontmatter × String) :=
  match Text.dropFront? mark (Text.trimStart source).toList with
  | none => .ok (none, source)
  | some opened =>
    match Text.cutAt? ('\n' :: mark) opened with
    | none => .error .unclosed
    | some (block, rest) =>
      match ofBlock? (Text.trim (String.ofList block)) with
      | none => .error .invalidYaml
      | some frontmatter => .ok (some frontmatter, Text.trimStart (String.ofList rest))

end Frontmatter

end Docsite
