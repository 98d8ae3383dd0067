/-
**Exporting configurations.**

A configuration as the JSON object that a site generator reads, with its keys in the order in which
they are declared. Texts at the top that are missing are written as `null`; further down, and for
the footer, the key is left out.
-/

import Docsite.Config.Basic
import Docsite.Json.Printer

namespace Docsite

open Json (Value)

/-- The member for a text that is left out where it is missing. -/
def optionalMember (key : String) (value : Option String) : List (String × Value) :=
  (value.map fun text => (key, Value.ofText text)).toList

/-- A head tag. -/
def HeadTag.toJson (tag : HeadTag) : Value :=
  .ofMembers
    [("tagName", .ofText tag.tagName),
      ("attributes", .ofMembers (tag.attributes.map fun (name, value) => (name, .ofText value)))]

/-- The documentation section. -/
def DocsOptions.toJson (docs : DocsOptions) : Value :=
  .ofMembers <|
    [("path", .ofText docs.path), ("routeBasePath", .ofText docs.routeBasePath)] ++
      optionalMember "sidebarPath" docs.sidebarPath ++ optionalMember "editUrl" docs.editUrl

/-- A logo. -/
def Logo.toJson (logo : Logo) : Value :=
  .ofMembers <|
    optionalMember "alt" logo.alt ++ [("src", .ofText logo.src)] ++ optionalMember "href" logo.href

/-- The member for a logo that is left out where it is missing. -/
def logoMember (logo : Option Logo) : List (String × Value) :=
  (logo.map fun logo => ("logo", logo.toJson)).toList

/-- An entry of the navigation bar. -/
def NavbarItem.toJson (item : NavbarItem) : Value :=
  .ofMembers
    [("label", .ofText item.label), item.target.member, ("position", .ofText item.position.name)]

/-- The navigation bar. -/
def Navbar.toJson (navbar : Navbar) : Value :=
  .ofMembers <|
    optionalMember "title" navbar.title ++ logoMember navbar.logo ++
      [("items", .array (navbar.items.map NavbarItem.toJson))]

/-- An entry of the footer. -/
def FooterLink.toJson (link : FooterLink) : Value :=
  .ofMembers [("label", .ofText link.label), link.target.member]

/-- A column of the footer. -/
def FooterLinkGroup.toJson (group : FooterLinkGroup) : Value :=
  .ofMembers
    [("title", .ofText group.title), ("items", .array (group.items.map FooterLink.toJson))]

/-- The footer. -/
def Footer.toJson (footer : Footer) : Value :=
  .ofMembers <|
    [("style", .ofText footer.style.name),
      ("links", .array (footer.links.map FooterLinkGroup.toJson))] ++
      logoMember footer.logo ++ optionalMember "copyright" footer.copyright

/-- The navigation of a site. -/
def SiteConfig.themeConfigJson (config : SiteConfig) : Value :=
  .ofMembers <|
    [("navbar", config.navbar.toJson)] ++
      (config.footer.map fun footer => ("footer", footer.toJson)).toList

/-- A whole configuration. -/
def SiteConfig.toJson (config : SiteConfig) : Value :=
  .ofMembers
    [("title", .ofText config.title),
      ("tagline", .ofOptional config.tagline),
      ("url", .ofText config.url),
      ("baseUrl", .ofText config.baseUrl),
      ("favicon", .ofOptional config.favicon),
      ("onBrokenLinks", .ofText config.onBrokenLinks.name),
      ("onBrokenMarkdownLinks", .ofText config.onBrokenMarkdownLinks.name),
      ("trailingSlash", (config.trailingSlash.map Value.bool).getD .null),
      ("organizationName", .ofOptional config.organizationName),
      ("projectName", .ofOptional config.projectName),
      ("deploymentBranch", .ofOptional config.deploymentBranch),
      ("headTags", .array (config.headTags.map HeadTag.toJson)),
      ("docs", config.docs.toJson),
      ("pages", .ofMembers [("path", .ofText config.pagesPath)]),
      ("staticDirectories", .array (config.staticDirectories.map Value.ofText)),
      ("theme", .ofMembers (optionalMember "customCss" config.customCss)),
      ("themeConfig", config.themeConfigJson)]

/-- The text of an exported configuration. -/
def SiteConfig.exported (config : SiteConfig) : String :=
  Json.pretty config.toJson

end Docsite
