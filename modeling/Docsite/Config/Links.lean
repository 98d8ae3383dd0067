/-
**Links of a configuration.**

The links that a configuration itself declares and that the site must serve, in the order in which
they are declared.
-/

import Docsite.Config.Basic
import Docsite.Route.Basic

namespace Docsite

/-- Where a configuration declares a link. -/
inductive ConfigOrigin where
  | navbarLogo
  | navbarItem (label : String)
  | footerItem (group label : String)
  | footerLogo
  deriving DecidableEq, Repr

/-- The wording of a place in the configuration. -/
def ConfigOrigin.text : ConfigOrigin → String
  | .navbarLogo => "navbar logo"
  | .navbarItem label => s!"navbar item \"{label}\""
  | .footerItem group label => s!"footer group \"{group}\" item \"{label}\""
  | .footerLogo => "footer logo"

/-- A link of the configuration that the site must serve. -/
structure ConfigLink where
  origin : ConfigOrigin
  target : String
  deriving DecidableEq, Repr

/-- The target of a logo, if the site must serve it. -/
def Logo.internalHref? (logo : Logo) : Option String :=
  logo.href.filter (!isExternal ·)

/-- The link of a logo that may be missing. -/
def logoLink (origin : ConfigOrigin) (logo : Option Logo) : List ConfigLink :=
  ((logo.bind Logo.internalHref?).map fun target => { origin, target }).toList

/-- The links of the navigation bar. -/
def Navbar.links (navbar : Navbar) : List ConfigLink :=
  logoLink .navbarLogo navbar.logo ++
    navbar.items.filterMap fun item =>
      item.target.internalPath?.map fun target => { origin := .navbarItem item.label, target }

/-- The links of a column of the footer. -/
def FooterLinkGroup.internalLinks (group : FooterLinkGroup) : List ConfigLink :=
  group.items.filterMap fun item =>
    item.target.internalPath?.map fun target =>
      { origin := .footerItem group.title item.label, target }

/-- The links of the footer. -/
def Footer.internalLinks (footer : Footer) : List ConfigLink :=
  footer.links.flatMap FooterLinkGroup.internalLinks ++ logoLink .footerLogo footer.logo

/-- Every link of a configuration that the site must serve. -/
def SiteConfig.internalLinks (config : SiteConfig) : List ConfigLink :=
  config.navbar.links ++ (config.footer.map Footer.internalLinks).getD []

/-- A path of the site with the base URL in front. -/
def SiteConfig.resolvePath (config : SiteConfig) (path : String) : String :=
  Route.withBaseUrl config.baseUrl path

end Docsite
