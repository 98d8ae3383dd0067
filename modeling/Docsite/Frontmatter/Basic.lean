/-
**Frontmatter.**

What the block at the top of a Markdown page says about the page itself.
-/

namespace Docsite

/-- The keys of a page's frontmatter that matter for its route. -/
structure Frontmatter where
  /-- Stands in place of the file name in the route of a documentation page. -/
  id : Option String := none
  title : Option String := none
  /-- Stands in place of the whole route below the base URL. -/
  slug : Option String := none
  /-- A draft is not published, so it has no route. -/
  draft : Bool := false
  deriving DecidableEq, Repr, Inhabited

end Docsite
