/-
**Reading declarations.**

Each section of a declaration is read from a value of any data format. A value that does not fit is
an error; a key without meaning is remembered with the way that leads to it.

* `SiteDeclaration.read?`: the declaration of a whole site.
-/

import Docsite.Declaration.Basic
import Docsite.Declaration.Dialect

namespace Docsite

variable {α : Type}

/-! ## Leaves -/

/-- A list of pairs in ascending order with one more pair, which replaces one of the same name. -/
def insertAttribute (name value : String) : List (String × String) → List (String × String)
  | [] => [(name, value)]
  | (first, old) :: rest =>
    if name < first then (name, value) :: (first, old) :: rest
    else if name = first then (name, value) :: rest
    else (first, old) :: insertAttribute name value rest

/-- A section in which every key names a text; of two fields with one name the last one counts. -/
def readAttributes? (dialect : Dialect α) (value : α) : Option (List (String × String)) :=
  match dialect.form? value with
  | some (.named members) => do
    let pairs ← members.mapM fun (key, value) => do return (← key, ← dialect.text? value)
    return pairs.foldl (fun sorted (name, text) => insertAttribute name text sorted) []
  | _ => none

/-- A list of texts. -/
def readTexts? (dialect : Dialect α) (value : α) : Option (List String) := do
  (← dialect.items? value).mapM dialect.text?

/-! ## Sections -/

/-- A head tag. -/
def HeadTagDeclaration.read? (dialect : Dialect α) (value : α) :
    Option (Reading HeadTagDeclaration) := do
  let fields ← Fields.of? dialect [("tagName", false), ("attributes", true)] value
  let tagName ← fields.text? dialect "tagName"
  let attributes ← match fields.get? "attributes" with
    | none => some []
    | some inner => readAttributes? dialect inner
  return { value := { tagName, attributes }, unknown := fields.unknownKeys [] }

/-- The documentation section. -/
def DocsDeclaration.read? (dialect : Dialect α) (value : α) : Option (Reading DocsDeclaration) := do
  let keys :=
    [("path", false), ("routeBasePath", false), ("sidebarPath", false), ("editUrl", false)]
  let fields ← Fields.of? dialect keys value
  let path ← fields.text? dialect "path"
  let routeBasePath ← fields.text? dialect "routeBasePath"
  let sidebarPath ← fields.text? dialect "sidebarPath"
  let editUrl ← fields.text? dialect "editUrl"
  return {
    value := { path, routeBasePath, sidebarPath, editUrl }
    unknown := fields.unknownKeys [] }

/-- The pages section. -/
def PagesDeclaration.read? (dialect : Dialect α) (value : α) :
    Option (Reading PagesDeclaration) := do
  let fields ← Fields.of? dialect [("path", false)] value
  let path ← fields.text? dialect "path"
  return { value := { path }, unknown := fields.unknownKeys [] }

/-- The theme section. -/
def ThemeDeclaration.read? (dialect : Dialect α) (value : α) :
    Option (Reading ThemeDeclaration) := do
  let fields ← Fields.of? dialect [("customCss", false)] value
  let customCss ← fields.text? dialect "customCss"
  return { value := { customCss }, unknown := fields.unknownKeys [] }

/-- A logo. -/
def LogoDeclaration.read? (dialect : Dialect α) (value : α) : Option (Reading LogoDeclaration) := do
  let fields ← Fields.of? dialect [("alt", false), ("src", false), ("href", false)] value
  let alt ← fields.text? dialect "alt"
  let src ← fields.text? dialect "src"
  let href ← fields.text? dialect "href"
  return { value := { alt, src, href }, unknown := fields.unknownKeys [] }

/-- An entry of the navigation bar or the footer. -/
def LinkDeclaration.read? (dialect : Dialect α) (value : α) : Option (Reading LinkDeclaration) := do
  let keys := [("label", false), ("to", false), ("href", false), ("position", false)]
  let fields ← Fields.of? dialect keys value
  let label ← fields.text? dialect "label"
  let path ← fields.text? dialect "to"
  let href ← fields.text? dialect "href"
  let position ← fields.text? dialect "position"
  return { value := { label, path, href, position }, unknown := fields.unknownKeys [] }

/-- The navigation bar. -/
def NavbarDeclaration.read? (dialect : Dialect α) (value : α) :
    Option (Reading NavbarDeclaration) := do
  let fields ← Fields.of? dialect [("title", false), ("logo", false), ("items", true)] value
  let title ← fields.text? dialect "title"
  let logo ← fields.section? dialect (LogoDeclaration.read? dialect) "logo"
  let items ← fields.list? dialect (LinkDeclaration.read? dialect) "items"
  return {
    value := { title, logo := logo.value, items := items.value }
    unknown := fields.unknownKeys [("logo", logo.unknown), ("items", items.unknown)] }

/-- A column of the footer. -/
def FooterGroupDeclaration.read? (dialect : Dialect α) (value : α) :
    Option (Reading FooterGroupDeclaration) := do
  let fields ← Fields.of? dialect [("title", false), ("items", true)] value
  let title ← fields.text? dialect "title"
  let items ← fields.list? dialect (LinkDeclaration.read? dialect) "items"
  return {
    value := { title, items := items.value }
    unknown := fields.unknownKeys [("items", items.unknown)] }

/-- The footer. -/
def FooterDeclaration.read? (dialect : Dialect α) (value : α) :
    Option (Reading FooterDeclaration) := do
  let keys := [("style", false), ("links", true), ("logo", false), ("copyright", false)]
  let fields ← Fields.of? dialect keys value
  let style ← fields.text? dialect "style"
  let links ← fields.list? dialect (FooterGroupDeclaration.read? dialect) "links"
  let logo ← fields.section? dialect (LogoDeclaration.read? dialect) "logo"
  let copyright ← fields.text? dialect "copyright"
  return {
    value := { style, links := links.value, logo := logo.value, copyright }
    unknown := fields.unknownKeys [("links", links.unknown), ("logo", logo.unknown)] }

/-- The navigation of a site. -/
def ThemeConfigDeclaration.read? (dialect : Dialect α) (value : α) :
    Option (Reading ThemeConfigDeclaration) := do
  let fields ← Fields.of? dialect [("navbar", true), ("footer", false)] value
  let navbar ← fields.sectionOr? {} (NavbarDeclaration.read? dialect) "navbar"
  let footer ← fields.section? dialect (FooterDeclaration.read? dialect) "footer"
  return {
    value := { navbar := navbar.value, footer := footer.value }
    unknown := fields.unknownKeys [("navbar", navbar.unknown), ("footer", footer.unknown)] }

/-- The keys of a site, in the order in which they are declared. -/
def SiteDeclaration.keys : SectionKeys :=
  [("title", false), ("tagline", false), ("url", false), ("baseUrl", false), ("favicon", false),
    ("onBrokenLinks", false), ("onBrokenMarkdownLinks", false), ("trailingSlash", false),
    ("organizationName", false), ("projectName", false), ("deploymentBranch", false),
    ("headTags", true), ("docs", true), ("pages", true), ("staticDirectories", false),
    ("theme", true), ("themeConfig", true)]

/-- A whole site. -/
def SiteDeclaration.read? (dialect : Dialect α) (value : α) : Option (Reading SiteDeclaration) := do
  let fields ← Fields.of? dialect keys value
  let title ← fields.text? dialect "title"
  let tagline ← fields.text? dialect "tagline"
  let url ← fields.text? dialect "url"
  let baseUrl ← fields.text? dialect "baseUrl"
  let favicon ← fields.text? dialect "favicon"
  let onBrokenLinks ← fields.text? dialect "onBrokenLinks"
  let onBrokenMarkdownLinks ← fields.text? dialect "onBrokenMarkdownLinks"
  let trailingSlash ← fields.optional? dialect dialect.flag? "trailingSlash"
  let organizationName ← fields.text? dialect "organizationName"
  let projectName ← fields.text? dialect "projectName"
  let deploymentBranch ← fields.text? dialect "deploymentBranch"
  let headTags ← fields.list? dialect (HeadTagDeclaration.read? dialect) "headTags"
  let docs ← fields.sectionOr? {} (DocsDeclaration.read? dialect) "docs"
  let pages ← fields.sectionOr? {} (PagesDeclaration.read? dialect) "pages"
  let staticDirectories ← fields.optional? dialect (readTexts? dialect) "staticDirectories"
  let theme ← fields.sectionOr? {} (ThemeDeclaration.read? dialect) "theme"
  let themeConfig ← fields.sectionOr? {} (ThemeConfigDeclaration.read? dialect) "themeConfig"
  return {
    value := {
      title, tagline, url, baseUrl, favicon, onBrokenLinks, onBrokenMarkdownLinks, trailingSlash,
      organizationName, projectName, deploymentBranch, headTags := headTags.value,
      docs := docs.value, pages := pages.value, staticDirectories, theme := theme.value,
      themeConfig := themeConfig.value }
    unknown := fields.unknownKeys
      [("headTags", headTags.unknown), ("docs", docs.unknown), ("pages", pages.unknown),
        ("theme", theme.unknown), ("themeConfig", themeConfig.unknown)] }

end Docsite
