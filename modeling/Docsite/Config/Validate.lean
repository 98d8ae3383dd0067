/-
**Checking declarations.**

A declaration becomes a configuration if every value in it can be used. The first fault, in the
order of the keys, is the error.

* `validate`: the configuration that a declaration stands for.
-/

import Docsite.Config.Basic
import Docsite.Config.Error
import Docsite.Declaration.Basic
import Docsite.Notice
import Docsite.Url.Reader

namespace Docsite

/-- A check that may give notices before it fails. -/
abbrev Check (α : Type) := ExceptT ConfigError Logged α

namespace Check

/-- Gives a notice if a condition holds. -/
def giveIf (condition : Bool) (notice : Notice) : Check Unit :=
  ExceptT.lift (Logged.giveIf condition notice)

/-- Fails because of the value of a field. -/
def invalid {α : Type} (field : String) (fault : ValueFault) : Check α :=
  throw (.invalidValue field fault)

end Check

/-! ## Texts -/

/-- A text that counts only if it is not blank. -/
def present (value : Option String) : Option String :=
  value.filter (!Text.isBlankText ·)

/-- A text that must be there and not be blank. -/
def required (field : String) (value : Option String) : Check String :=
  match present value with
  | some text => pure text
  | none => throw (.missingField field)

/-! ## Address -/

/-- The address of a site. -/
def validateUrl (raw : String) : Check String := do
  let text := Text.trim raw
  match Url.parse text with
  | .error error => Check.invalid "url" (.notAUrl text error)
  | .ok url =>
    if !(url.scheme == "http" || url.scheme == "https") then
      Check.invalid "url" (.schemeNotSupported url.scheme)
    else if url.host.isNone then Check.invalid "url" .urlWithoutHost
    else
      Check.giveIf (url.pathText != "/") (.urlHasPath text)
      return Text.trimEndOf '/' text

/-- The path below which a site is served. -/
def validateBaseUrl (raw : String) : Check String :=
  let text := Text.trim raw
  if text.toList.head? != some '/' then Check.invalid "baseUrl" (.notRooted text)
  else if text.toList.getLast? == some '/' then pure text
  else pure (text ++ "/")

/-! ## Words -/

/-- The policy that a field names, or the one that holds where it names none. -/
def validatePolicy (field : String) (missing : LinkPolicy) (value : Option String) :
    Check LinkPolicy :=
  match value with
  | none => pure missing
  | some text =>
    match LinkPolicy.ofText? text with
    | some policy => pure policy
    | none => throw (.unknownPolicy field (Text.trim text))

/-- The side of the navigation bar that an entry names. -/
def validatePosition (field : String) (value : Option String) : Check NavbarPosition :=
  match value.map Text.trim with
  | none => pure .left
  | some word =>
    if word == "left" then pure .left
    else if word == "right" then pure .right
    else Check.invalid (field ++ ".position") (.notOneOf word ["left", "right"])

/-- The color scheme that the footer names. -/
def validateStyle (value : Option String) : Check FooterStyle :=
  match value.map Text.trim with
  | none => pure .light
  | some word =>
    if word == "light" then pure .light
    else if word == "dark" then pure .dark
    else Check.invalid "themeConfig.footer.style" (.notOneOf word ["dark", "light"])

/-! ## Entries -/

/-- Whether a text is the name of an element. -/
def isElementName (name : String) : Bool :=
  match name.toList with
  | [] => false
  | first :: rest => first.isAlpha && rest.all fun c => c.isAlphanum || c == '-'

/-- The key of an item of a list. -/
def itemKey (list : String) (i : Nat) : String :=
  list ++ "[" ++ toString i ++ "]"

/-- Checks every item of a list, given its key. -/
def validateItems {α β : Type} (list : String) (validateItem : String → α → Check β)
    (items : List α) : Check (List β) :=
  items.zipIdx.mapM fun (item, i) => validateItem (itemKey list i) item

/-- A head tag. -/
def validateHeadTag (field : String) (tag : HeadTagDeclaration) : Check HeadTag := do
  let tagName ← required (field ++ ".tagName") tag.tagName
  if !isElementName tagName then Check.invalid (field ++ ".tagName") (.notAnElementName tagName)
  else return { tagName, attributes := tag.attributes }

/-- A logo. -/
def validateLogo (field : String) (logo : LogoDeclaration) : Check Logo := do
  let src ← required (field ++ ".src") logo.src
  return { alt := present logo.alt, src, href := present logo.href }

/-- A logo that may be missing. -/
def validateLogo? (field : String) : Option LogoDeclaration → Check (Option Logo)
  | none => pure none
  | some logo => some <$> validateLogo field logo

/-- The label of an entry and its one target. -/
def validateLink (field : String) (link : LinkDeclaration) : Check (String × LinkTarget) := do
  let label ← required (field ++ ".label") link.label
  match present link.path, present link.href with
  | some target, none => return (label, .path target)
  | none, some target =>
    Check.giveIf (!isExternal target) (.hrefNotChecked field target)
    return (label, .href target)
  | some _, some _ => Check.invalid field .bothTargets
  | none, none => throw (.missingField (field ++ ".to"))

/-- An entry of the navigation bar. -/
def validateNavbarItem (field : String) (item : LinkDeclaration) : Check NavbarItem := do
  let position ← validatePosition field item.position
  let (label, target) ← validateLink field item
  return { label, target, position }

/-- The navigation bar. -/
def validateNavbar (navbar : NavbarDeclaration) : Check Navbar := do
  let logo ← validateLogo? "themeConfig.navbar.logo" navbar.logo
  let items ← validateItems "themeConfig.navbar.items" validateNavbarItem navbar.items
  return { title := present navbar.title, logo, items }

/-- An entry of the footer. -/
def validateFooterLink (field : String) (item : LinkDeclaration) : Check FooterLink := do
  let (label, target) ← validateLink field item
  return { label, target }

/-- A column of the footer. -/
def validateFooterGroup (field : String) (group : FooterGroupDeclaration) :
    Check FooterLinkGroup := do
  let title ← required (field ++ ".title") group.title
  let items ← validateItems (field ++ ".items") validateFooterLink group.items
  return { title, items }

/-- The footer. -/
def validateFooter (footer : FooterDeclaration) : Check Footer := do
  let style ← validateStyle footer.style
  let links ← validateItems "themeConfig.footer.links" validateFooterGroup footer.links
  let logo ← validateLogo? "themeConfig.footer.logo" footer.logo
  return { style, links, logo, copyright := present footer.copyright }

/-- A footer that may be missing. -/
def validateFooter? : Option FooterDeclaration → Check (Option Footer)
  | none => pure none
  | some footer => some <$> validateFooter footer

/-! ## Whole sites -/

/-- The documentation section; every value has one that holds where it is missing. -/
def docsOptions (docs : DocsDeclaration) : DocsOptions where
  path := (present docs.path).getD "docs"
  routeBasePath := (docs.routeBasePath.map (Text.trimOf '/')).getD "docs"
  sidebarPath := present docs.sidebarPath
  editUrl := present docs.editUrl

/-- The configuration that a declaration stands for. -/
def validate (site : SiteDeclaration) : Check SiteConfig := do
  let title ← required "title" site.title
  let url ← required "url" site.url
  let baseUrl ← required "baseUrl" site.baseUrl
  let url ← validateUrl url
  let baseUrl ← validateBaseUrl baseUrl
  let onBrokenLinks ← validatePolicy "onBrokenLinks" .throw site.onBrokenLinks
  let onBrokenMarkdownLinks ←
    validatePolicy "onBrokenMarkdownLinks" .warn site.onBrokenMarkdownLinks
  let headTags ← validateItems "headTags" validateHeadTag site.headTags
  let navbar ← validateNavbar site.themeConfig.navbar
  let footer ← validateFooter? site.themeConfig.footer
  return {
    title, tagline := present site.tagline, url, baseUrl, favicon := present site.favicon,
    onBrokenLinks, onBrokenMarkdownLinks, trailingSlash := site.trailingSlash,
    organizationName := present site.organizationName, projectName := present site.projectName,
    deploymentBranch := present site.deploymentBranch, headTags, docs := docsOptions site.docs,
    pagesPath := (present site.pages.path).getD "src/pages",
    staticDirectories := site.staticDirectories.getD ["static"],
    customCss := present site.theme.customCss, navbar, footer }

end Docsite
