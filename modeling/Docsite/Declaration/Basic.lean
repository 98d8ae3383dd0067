/-
**Declarations.**

What a configuration file says about a site, before anything is checked. Every key may be missing;
texts are kept as written.
-/

namespace Docsite

/-- A head tag as declared. -/
structure HeadTagDeclaration where
  tagName : Option String := none
  /-- In ascending order of the names. -/
  attributes : List (String × String) := []
  deriving DecidableEq, Repr

/-- The documentation section as declared. -/
structure DocsDeclaration where
  path : Option String := none
  routeBasePath : Option String := none
  sidebarPath : Option String := none
  editUrl : Option String := none
  deriving DecidableEq, Repr

/-- The pages section as declared. -/
structure PagesDeclaration where
  path : Option String := none
  deriving DecidableEq, Repr

/-- The theme section as declared. -/
structure ThemeDeclaration where
  customCss : Option String := none
  deriving DecidableEq, Repr

/-- A logo as declared. -/
structure LogoDeclaration where
  alt : Option String := none
  src : Option String := none
  href : Option String := none
  deriving DecidableEq, Repr

/-- An entry of the navigation bar or the footer as declared. -/
structure LinkDeclaration where
  label : Option String := none
  /-- A path of the site, declared under `to`. -/
  path : Option String := none
  href : Option String := none
  position : Option String := none
  deriving DecidableEq, Repr

/-- The navigation bar as declared. -/
structure NavbarDeclaration where
  title : Option String := none
  logo : Option LogoDeclaration := none
  items : List LinkDeclaration := []
  deriving DecidableEq, Repr

/-- A column of the footer as declared. -/
structure FooterGroupDeclaration where
  title : Option String := none
  items : List LinkDeclaration := []
  deriving DecidableEq, Repr

/-- The footer as declared. -/
structure FooterDeclaration where
  style : Option String := none
  links : List FooterGroupDeclaration := []
  logo : Option LogoDeclaration := none
  copyright : Option String := none
  deriving DecidableEq, Repr

/-- The navigation of a site as declared. -/
structure ThemeConfigDeclaration where
  navbar : NavbarDeclaration := {}
  footer : Option FooterDeclaration := none
  deriving DecidableEq, Repr

/-- A site as declared. -/
structure SiteDeclaration where
  title : Option String := none
  tagline : Option String := none
  url : Option String := none
  baseUrl : Option String := none
  favicon : Option String := none
  onBrokenLinks : Option String := none
  onBrokenMarkdownLinks : Option String := none
  trailingSlash : Option Bool := none
  organizationName : Option String := none
  projectName : Option String := none
  deploymentBranch : Option String := none
  headTags : List HeadTagDeclaration := []
  docs : DocsDeclaration := {}
  pages : PagesDeclaration := {}
  staticDirectories : Option (List String) := none
  theme : ThemeDeclaration := {}
  themeConfig : ThemeConfigDeclaration := {}
  deriving DecidableEq, Repr

end Docsite
