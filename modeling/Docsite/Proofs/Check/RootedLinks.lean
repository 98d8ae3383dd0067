/-
**The same target in the navigation and on pages.**

A path from the root of the site leads to the same place wherever it is written. An entry of the
navigation bar and a link on a page with the same path are reported together or not at all, whatever
query or fragment either of them carries. Only the base URL without its last slash is different: an entry
that puts a query or a fragment behind it leads below the base URL once more.

* `Route.FromRoot`: the targets that are a path from the root.
* `reports_entry_iff`, `reports_link_iff`: when an entry and when a link are reported.
* `checkLinks_samePath`: an entry and a link with one path are reported together.
-/

import Docsite.Proofs.Check.ServedRoutes
import Docsite.Proofs.Route.Suffixes

namespace Docsite

/-! ## Paths from the root -/

/-- A target is a path from the root of the site: it starts with one slash and not with two. -/
structure Route.FromRoot (target : String) : Prop where
  slash : ['/'] <+: target.toList
  single : ¬ ['/', '/'] <+: target.toList

namespace Route.FromRoot

variable {target other : String}

/-- What a target starts with, queries and fragments aside, its path starts with. -/
theorem prefix_cutSuffixes_iff {front : List Char} (noEnd : front.all (!Url.endsPath ·) = true) :
    front <+: (cutSuffixes target).toList ↔ front <+: target.toList := by
  constructor
  · exact fun isFront => isFront.trans (cutSuffixes_front target)
  · rintro ⟨back, spelled⟩
    rw [toList_cutSuffixes, ← spelled, List.takeWhile_append_of_pos (List.all_eq_true.mp noEnd)]
    exact List.prefix_append _ _

/-- Queries and fragments have no part in this. -/
theorem congr (fromRoot : FromRoot target) (same : cutSuffixes target = cutSuffixes other) :
    FromRoot other where
  slash := by
    rw [← prefix_cutSuffixes_iff rfl, ← same, prefix_cutSuffixes_iff rfl]
    exact fromRoot.slash
  single := by
    rw [← prefix_cutSuffixes_iff rfl, ← same, prefix_cutSuffixes_iff rfl]
    exact fromRoot.single

/-- A path from the root does not leave the site. -/
theorem isExternal_eq (fromRoot : FromRoot target) : isExternal target = false := by
  obtain ⟨rest, spelled⟩ := fromRoot.slash
  rw [isExternal, Bool.or_eq_false_iff]
  constructor
  · rw [← Bool.not_eq_true, List.isPrefixOf_iff_prefix]
    exact fromRoot.single
  · rw [← spelled]
    rfl

/-- A link to a path from the root leads to another place of the site. -/
theorem not_staysAside {link : MarkdownLink} (fromRoot : FromRoot link.target) :
    ¬ link.StaysAside := by
  rintro (empty | mark | external)
  · obtain ⟨rest, spelled⟩ := (prefix_cutSuffixes_iff rfl).mpr fromRoot.slash
    have nothing : (cutSuffixes link.target).toList = [] := String.toList_eq_nil_iff.mpr empty
    rw [nothing] at spelled
    cases spelled
  · obtain ⟨rest, spelled⟩ := fromRoot.slash
    rw [← spelled] at mark
    cases mark
  · rw [fromRoot.isExternal_eq] at external
    cases external

end Route.FromRoot

/-! ## Reports -/

/-- A report names a broken link: the place where it is written, and its target. -/
def LinkReport.Names (report : LinkReport) (source : LinkSource) (target : String) : Prop :=
  ∃ broken ∈ report.brokenLinks, broken.source = source ∧ broken.target = target

section Reports

variable {config : SiteConfig} {tree : ContentTree} {target : String}

/-- **An entry is reported exactly if its target, below the base URL, is not served.** -/
theorem reports_entry_iff (fromRoot : Route.FromRoot target) {item : NavbarItem}
    (declared : item ∈ config.navbar.items) (pointed : item.target = .path target) :
    (checkLinks config tree).value.Names (.config (ConfigOrigin.navbarItem item.label).text) target ↔
      ¬ tree.Serves (config.resolvePath target) := by
  constructor
  · rintro ⟨broken, found, written, same⟩
    rcases mem_brokenLinks_iff.mp found with ⟨link, -, given⟩ | ⟨place, -, given⟩
    · cases given with
      | missing missing =>
        obtain rfl : link.target = target := same
        exact missing
    · cases given with
      | draft => cases written
      | missing => cases written
  · intro missing
    have internal : item.target.internalPath? = some target := by
      rw [pointed, LinkTarget.internalPath?, fromRoot.isExternal_eq, if_neg Bool.false_ne_true]
    have isEntry : (⟨.navbarItem item.label, target⟩ : ConfigLink) ∈ config.internalLinks := by
      refine List.mem_append_left _ (List.mem_append_right _
        (List.mem_filterMap.mpr ⟨item, declared, ?_⟩))
      rw [internal]
      rfl
    exact ⟨_, mem_brokenLinks_iff.mpr (.inl ⟨_, isEntry, .missing missing⟩), rfl, rfl⟩

/-- What is found for a link to a path from the root depends on its path alone. -/
theorem findingAt?_fromRoot {place : PublishedLink} (fromRoot : Route.FromRoot place.link.target)
    (isRoute : ¬ place.link.IsReference) :
    findingAt? config tree place =
      if tree.routes.contains (config.resolvePath place.link.path) then none
      else some (.link {
        source := .markdown place.page.sitePath place.link.line
        target := place.link.target
        resolved := config.resolvePath place.link.path }) := by
  have slash : ['/'] <+: place.link.path.toList :=
    (Route.FromRoot.prefix_cutSuffixes_iff rfl).mpr fromRoot.slash
  have leads : resolveOnPage config place.route place.link.path =
      config.resolvePath place.link.path := leadsTo_iff.mp (.rooted slash)
  rw [findingAt?, findingOf?_path fromRoot.not_staysAside isRoute, leads]

/-- **A link is reported exactly if its path, below the base URL, is not served.** -/
theorem reports_link_iff {place : PublishedLink} (fromRoot : Route.FromRoot place.link.target)
    (isRoute : ¬ place.link.IsReference) (published : place ∈ tree.publishedLinks) :
    (checkLinks config tree).value.Names (.markdown place.page.sitePath place.link.line)
        place.link.target ↔
      ¬ tree.Serves (config.resolvePath place.link.path) := by
  rw [← ContentTree.contains_routes]
  constructor
  · rintro ⟨broken, found, written, same⟩
    rcases mem_brokenLinks_iff.mp found with ⟨link, -, given⟩ | ⟨other, -, given⟩
    · cases given with
      | missing => cases written
    · -- The report may name another link with the same target; what is found for it is the same.
      have sameTarget : other.link.target = place.link.target :=
        given.of_link.2.symm.trans same
      have samePath : other.link.path = place.link.path := congrArg Route.cutSuffixes sameTarget
      have here := (linkVerdict_iff other _).mp given
      rw [findingAt?_fromRoot (sameTarget ▸ fromRoot)
        (by rw [MarkdownLink.IsReference, samePath]; exact isRoute), samePath] at here
      split at here
      · cases here
      · next missing => exact missing
  · intro missing
    have here : findingAt? config tree place = _ := findingAt?_fromRoot fromRoot isRoute
    rw [if_neg missing] at here
    exact ⟨_, mem_brokenLinks_iff.mpr (.inr ⟨place, published, (linkVerdict_iff place _).mpr here⟩),
      rfl, rfl⟩

/-! ## Entries and links -/

/-- **An entry of the navigation bar and a link on a page with the same path are reported together.** The
path starts at the root and does not have the ending of a Markdown file; each of the two targets may
carry a query and a fragment of its own. Only where the path is the base URL without its last slash, the
entry must be that path alone. -/
theorem checkLinks_samePath {entry written : String} (fromRoot : Route.FromRoot entry)
    (isRoute : ¬ Route.NamesMarkdown (Route.cutSuffixes entry))
    (samePath : Route.cutSuffixes entry = Route.cutSuffixes written)
    (notBase : Route.cutSuffixes entry = Text.trimEndOf '/' config.baseUrl →
      Route.cutSuffixes entry = entry) :
    ∀ item ∈ config.navbar.items, item.target = .path entry →
      ∀ place ∈ tree.publishedLinks, place.link.target = written →
        ((checkLinks config tree).value.Names
            (.config (ConfigOrigin.navbarItem item.label).text) entry ↔
          (checkLinks config tree).value.Names
            (.markdown place.page.sitePath place.link.line) written) := by
  rintro item declared pointed place published rfl
  have path : place.link.path = Route.cutSuffixes entry := samePath.symm
  have alike : Route.normalize (config.resolvePath entry) =
      Route.normalize (config.resolvePath place.link.path) := by
    rw [path]
    exact Route.normalize_withBaseUrl_cutSuffixes notBase
  have linkRoute : ¬ place.link.IsReference := by
    rw [MarkdownLink.IsReference, path]
    exact isRoute
  rw [reports_entry_iff fromRoot declared pointed,
    reports_link_iff (fromRoot.congr samePath) linkRoute published, ContentTree.Serves,
    ContentTree.Serves, alike]

end Reports

/-! ## Sites with one entry -/

/-- The configuration of a site below a directory, with one entry in its navigation bar. -/
def SiteConfig.appWith (target : String) : SiteConfig :=
  { SiteConfig.below "/app/" with
    navbar := {
      title := none
      logo := none
      items := [{ label := "Home", target := .path target, position := .left }] } }

/-- A start page with one link. -/
def startPageDisk (target : String) : Disk := { top := .directory [
  ("src", .directory [("pages", .directory [
    ("index.md", .file (.text ("[home](" ++ target ++ ")")))])])] }

/-- Both are reported where the path is not served: the entry with a query, the link with a fragment. -/
theorem checkLinks_samePath_gone :
    ∃ tree, ContentTree.DiscoveredOn (startPageDisk "/app/gone#top") ⟨"."⟩
        (.appWith "/app/gone?x=1") tree ∧
      (checkLinks (.appWith "/app/gone?x=1") tree).value.Names
        (.config (ConfigOrigin.navbarItem "Home").text) "/app/gone?x=1" ∧
      (checkLinks (.appWith "/app/gone?x=1") tree).value.Names
        (.markdown ⟨"src/pages/index.md"⟩ 1) "/app/gone#top" := by
  obtain ⟨tree, discovered, seen⟩ : ∃ tree,
      ContentTree.DiscoveredOn (startPageDisk "/app/gone#top") ⟨"."⟩
        (.appWith "/app/gone?x=1") tree ∧
      (tree.publishedLinks.map (fun place => (place.page.sitePath, place.link)),
        tree.routes.contains "/app/gone?x=1") =
        ([(⟨"src/pages/index.md"⟩, { target := "/app/gone#top", line := 1 })], false) :=
    ContentTree.exists_of_view (by decide +kernel)
  obtain ⟨links, unserved⟩ := Prod.mk.inj seen
  obtain ⟨place, published, isHere⟩ : ∃ place ∈ tree.publishedLinks,
      (place.page.sitePath, place.link) =
        (⟨"src/pages/index.md"⟩, { target := "/app/gone#top", line := 1 }) := by
    rw [← List.mem_map, links]
    exact List.mem_singleton_self _
  obtain ⟨page, link⟩ := Prod.mk.inj isHere
  have fromRoot : Route.FromRoot "/app/gone?x=1" :=
    ⟨List.isPrefixOf_iff_prefix.mp (by decide), fun isFront =>
      absurd (List.isPrefixOf_iff_prefix.mpr isFront) (by decide)⟩
  have isRoute : ¬ Route.NamesMarkdown (Route.cutSuffixes "/app/gone?x=1") := by
    rw [Route.NamesMarkdown, ← List.isSuffixOf_iff_suffix, ← List.isSuffixOf_iff_suffix]
    decide +kernel
  have samePath : Route.cutSuffixes "/app/gone?x=1" = Route.cutSuffixes "/app/gone#top" := by
    decide +kernel
  have notBase : Route.cutSuffixes "/app/gone?x=1" ≠
      Text.trimEndOf '/' (SiteConfig.appWith "/app/gone?x=1").baseUrl := by
    decide +kernel
  have declared : ⟨"Home", .path "/app/gone?x=1", .left⟩ ∈
      (SiteConfig.appWith "/app/gone?x=1").navbar.items := List.mem_singleton_self _
  have entry : (checkLinks (.appWith "/app/gone?x=1") tree).value.Names
      (.config (ConfigOrigin.navbarItem "Home").text) "/app/gone?x=1" := by
    rw [reports_entry_iff fromRoot declared rfl, ← ContentTree.contains_routes, Bool.not_eq_true]
    exact unserved
  have onPage := (checkLinks_samePath fromRoot isRoute samePath (fun isBase => absurd isBase notBase)
    _ declared rfl place published (congrArg MarkdownLink.target link)).mp entry
  rw [page, link] at onPage
  exact ⟨tree, discovered, entry, onPage⟩

/-- With a query behind it, the base URL without its last slash is put below itself once more in the
navigation bar, and reported; the same link on a page leads to the start page. -/
theorem checkLinks_queryBehindBase :
    ∃ tree, ContentTree.DiscoveredOn (startPageDisk "/app?x=1") ⟨"."⟩ (.appWith "/app?x=1") tree ∧
      tree.files.map ContentFile.route = [some "/app"] ∧
      tree.publishedLinks.map (·.link.target) = ["/app?x=1"] ∧
      (checkLinks (.appWith "/app?x=1") tree).value = {
        brokenLinks := [{
          source := .config (ConfigOrigin.navbarItem "Home").text
          target := "/app?x=1"
          resolved := "/app/app?x=1" }] } := by
  obtain ⟨tree, discovered, seen⟩ : ∃ tree,
      ContentTree.DiscoveredOn (startPageDisk "/app?x=1") ⟨"."⟩ (.appWith "/app?x=1") tree ∧
      (tree.files.map ContentFile.route, tree.publishedLinks.map (·.link.target),
        (checkLinks (.appWith "/app?x=1") tree).value) = ([some "/app"], ["/app?x=1"], {
        brokenLinks := [{
          source := .config (ConfigOrigin.navbarItem "Home").text
          target := "/app?x=1"
          resolved := "/app/app?x=1" }] }) :=
    ContentTree.exists_of_view (by decide +kernel)
  obtain ⟨routes, rest⟩ := Prod.mk.inj seen
  obtain ⟨links, report⟩ := Prod.mk.inj rest
  exact ⟨tree, discovered, routes, links, report⟩

end Docsite
