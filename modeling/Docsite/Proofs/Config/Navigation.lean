/-
**The navigation as it is declared.**

A configuration declares entries at several places: the logo and the items of the navigation bar, the
items of the columns of the footer, and the logo of the footer.

* `SiteConfig.internalLinks_eq`: the links that the site must serve are those entries, in order,
  whose target is a path of the site.
-/

import Docsite.Config.Links

namespace Docsite

/-- An entry of the navigation: where it stands and where it points. -/
structure NavigationEntry where
  origin : ConfigOrigin
  target : LinkTarget

/-- The entry of a logo that points somewhere. -/
def logoEntry (origin : ConfigOrigin) (logo : Option Logo) : List NavigationEntry :=
  ((logo.bind Logo.href).map fun target => { origin, target := .path target }).toList

/-- Every entry of the navigation, as declared: the logo and the items of the navigation bar, then
the columns and the logo of the footer. -/
def SiteConfig.navigation (config : SiteConfig) : List NavigationEntry :=
  logoEntry .navbarLogo config.navbar.logo ++
    config.navbar.items.map (fun item => ⟨.navbarItem item.label, item.target⟩) ++
    config.footer.toList.flatMap fun footer =>
      (footer.links.flatMap fun group =>
        group.items.map fun item => ⟨.footerItem group.title item.label, item.target⟩) ++
      logoEntry .footerLogo footer.logo

/-- The link that an entry makes, unless its target leaves the site or is passed on. -/
def NavigationEntry.link? (entry : NavigationEntry) : Option ConfigLink :=
  entry.target.internalPath?.map fun target => { origin := entry.origin, target }

theorem filterMap_logoEntry (origin : ConfigOrigin) (logo : Option Logo) :
    (logoEntry origin logo).filterMap NavigationEntry.link? = logoLink origin logo := by
  match logo with
  | none => rfl
  | some logo =>
    match href : logo.href with
    | none => simp [logoEntry, logoLink, Logo.internalHref?, href]
    | some target =>
      cases external : isExternal target <;>
        simp [logoEntry, logoLink, Logo.internalHref?, href, NavigationEntry.link?,
          LinkTarget.internalPath?, Option.filter, external]

/-- **The links of a configuration are those of its navigation, in the same order.** -/
theorem SiteConfig.internalLinks_eq (config : SiteConfig) :
    config.internalLinks = config.navigation.filterMap NavigationEntry.link? := by
  have column (group : FooterLinkGroup) :
      (group.items.map fun item =>
          (⟨.footerItem group.title item.label, item.target⟩ : NavigationEntry)).filterMap
        NavigationEntry.link? = group.internalLinks := by
    rw [List.filterMap_map]
    rfl
  rw [SiteConfig.internalLinks, SiteConfig.navigation, Navbar.links, List.filterMap_append,
    List.filterMap_append, filterMap_logoEntry, List.filterMap_map]
  congr 1
  match config.footer with
  | none => rfl
  | some footer =>
    simp only [Option.map_some, Option.getD_some, Option.toList_some, List.flatMap_cons,
      List.flatMap_nil, List.append_nil, List.filterMap_append, List.filterMap_flatMap,
      filterMap_logoEntry, column, Footer.internalLinks]

/-- A site without navigation that is served at the root. -/
def SiteConfig.bare : SiteConfig where
  title := "Site"
  tagline := none
  url := "https://example.org"
  baseUrl := "/"
  favicon := none
  onBrokenLinks := .throw
  onBrokenMarkdownLinks := .warn
  trailingSlash := none
  organizationName := none
  projectName := none
  deploymentBranch := none
  headTags := []
  docs := { path := "docs", routeBasePath := "docs", sidebarPath := none, editUrl := none }
  pagesPath := "src/pages"
  staticDirectories := ["static"]
  customCss := none
  navbar := { title := none, logo := none, items := [] }
  footer := none

end Docsite
