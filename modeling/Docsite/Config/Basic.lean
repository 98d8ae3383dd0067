/-
**Site configurations.**

A configuration whose values have been checked. Navigation entries, footer columns and head tags
keep the order in which they were declared.
-/

import Docsite.Config.Policy
import Docsite.Config.Target

namespace Docsite

/-- An element added to the head of every page. -/
structure HeadTag where
  tagName : String
  /-- In ascending order of the names. -/
  attributes : List (String × String)
  deriving DecidableEq, Repr

/-- Where documentation pages are kept and served. -/
structure DocsOptions where
  /-- The directory of the pages, below the site directory. -/
  path : String
  /-- The segment in front of every route, empty for the root of the site. -/
  routeBasePath : String
  sidebarPath : Option String
  editUrl : Option String
  deriving DecidableEq, Repr

/-- A logo in the navigation bar or the footer. -/
structure Logo where
  alt : Option String
  src : String
  href : Option String
  deriving DecidableEq, Repr

/-- A side of the navigation bar. -/
inductive NavbarPosition where
  | left
  | right
  deriving DecidableEq, Repr

/-- The word for a side of the navigation bar. -/
def NavbarPosition.name : NavbarPosition → String
  | .left => "left"
  | .right => "right"

/-- An entry of the navigation bar. -/
structure NavbarItem where
  label : String
  target : LinkTarget
  position : NavbarPosition
  deriving DecidableEq, Repr

/-- The navigation bar. -/
structure Navbar where
  title : Option String
  logo : Option Logo
  items : List NavbarItem
  deriving DecidableEq, Repr

/-- The color scheme of the footer. -/
inductive FooterStyle where
  | dark
  | light
  deriving DecidableEq, Repr

/-- The word for a color scheme. -/
def FooterStyle.name : FooterStyle → String
  | .dark => "dark"
  | .light => "light"

/-- An entry of the footer. -/
structure FooterLink where
  label : String
  target : LinkTarget
  deriving DecidableEq, Repr

/-- A titled column of footer entries. -/
structure FooterLinkGroup where
  title : String
  items : List FooterLink
  deriving DecidableEq, Repr

/-- The footer. -/
structure Footer where
  style : FooterStyle
  links : List FooterLinkGroup
  logo : Option Logo
  copyright : Option String
  deriving DecidableEq, Repr

/-- A site configuration whose values have been checked. -/
structure SiteConfig where
  title : String
  tagline : Option String
  /-- The address of the site, without a slash at its end. -/
  url : String
  /-- The path below which the site is served; it starts and ends with a slash. -/
  baseUrl : String
  favicon : Option String
  onBrokenLinks : LinkPolicy
  onBrokenMarkdownLinks : LinkPolicy
  /-- Missing where links are left as they were written. -/
  trailingSlash : Option Bool
  organizationName : Option String
  projectName : Option String
  deploymentBranch : Option String
  headTags : List HeadTag
  docs : DocsOptions
  pagesPath : String
  staticDirectories : List String
  customCss : Option String
  navbar : Navbar
  footer : Option Footer
  deriving DecidableEq, Repr

/-- The entries on one side of the navigation bar. -/
def Navbar.itemsAt (navbar : Navbar) (position : NavbarPosition) : List NavbarItem :=
  navbar.items.filter (·.position == position)

end Docsite
