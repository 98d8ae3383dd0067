/-
**Routes of content files.**

* `ofDoc`: a documentation page is served under its directories, without their ordering numbers.
* `ofPage`: a standalone page is served under its directories as they are.
* `ofStatic`: a static file is served under its own path.
-/

import Docsite.Frontmatter.Basic
import Docsite.Path
import Docsite.Route.Basic
import Docsite.Route.NumberPrefix

namespace Docsite.Route

/-! ## Names that stand for their directory -/

/-- A text with its ASCII letters in lower case. -/
def lowerAscii (s : String) : String :=
  String.ofList (s.toList.map Char.toLower)

/-- Whether a file of this name is served under its directory. -/
def isIndex (stem : String) : Bool :=
  lowerAscii stem == "index"

/-- Whether a documentation page of this name is served under its directory. -/
def isDocIndex (stem : String) : Bool :=
  isIndex stem || lowerAscii stem == "readme"

/-- The directories above a file. -/
def directories (relative : Path) : List String :=
  ((relative.parent?).getD ⟨""⟩).names

/-! ## Routes -/

/-- The path of a documentation page below the base URL and the documentation segment. -/
def docPath (relative : Path) (frontmatter : Option Frontmatter) : String :=
  let above := (directories relative).map NumberPrefix.strip
  let stem := (relative.stem?.map NumberPrefix.strip).getD "index"
  match frontmatter.bind Frontmatter.slug, frontmatter.bind Frontmatter.id with
  | some slug, _ =>
    if slug.toList.head? == some '/' then slug else Text.joinWith "/" (above ++ [slug])
  | none, some id => Text.joinWith "/" (above ++ [id])
  | none, none => Text.joinWith "/" (if isDocIndex stem then above else above ++ [stem])

/-- The route of a documentation page at `relative` inside the documentation directory. -/
def ofDoc (baseUrl routeBasePath : String) (relative : Path) (frontmatter : Option Frontmatter) :
    String :=
  below baseUrl routeBasePath (docPath relative frontmatter)

/-- The path of a standalone page below the base URL. -/
def pagePath (relative : Path) (frontmatter : Option Frontmatter) : String :=
  match frontmatter.bind Frontmatter.slug with
  | some slug => slug
  | none =>
    let stem := relative.stem?.getD "index"
    let above := directories relative
    Text.joinWith "/" (if isIndex stem then above else above ++ [stem])

/-- The route of a standalone page at `relative` inside the pages directory. -/
def ofPage (baseUrl : String) (relative : Path) (frontmatter : Option Frontmatter) : String :=
  below baseUrl "" (pagePath relative frontmatter)

/-- The route of a static file at `relative` inside its directory. -/
def ofStatic (baseUrl : String) (relative : Path) : String :=
  below baseUrl "" (Text.joinWith "/" relative.names)

end Docsite.Route
