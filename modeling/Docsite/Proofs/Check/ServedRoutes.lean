/-
**Links to what a site serves.**

A route that a site serves can be written as the target of a link. A check finds nothing wrong with such
a link, as long as the route lies below the base URL and does not have the ending of a Markdown file:
what starts with a slash is put below the base URL unless it is there already, and a target with such an
ending names a file and no route. Routes are encoded, though, and the base URL is compared as it is
written. Where it is not written as it is served, a route is put below it a second time.

* `SiteConfig.Covers`: the routes that are left as they are when they are put below the base URL.
* `SiteConfig.WritesBase`: the base URLs that are written as they are served.
* `linkVerdict_markdownRoute`, `linkVerdict_resolved`: the verdict of a link to any route.
* `checkLinks_servedRoute`: what is found for a link to a route of the site.
-/

import Docsite.Proofs.Check.Verdict
import Docsite.Proofs.Config.Acceptance
import Docsite.Proofs.Config.Address
import Docsite.Proofs.Content.Routes
import Docsite.Proofs.Route.Prefixing

namespace Docsite

open Url (IsRooted)

/-! ## Below the base URL -/

/-- A route lies below the base URL as that is written, or it is the base URL without the slashes at its
end. -/
inductive SiteConfig.Covers (config : SiteConfig) (route : String) : Prop
  | below : config.baseUrl.toList <+: route.toList → Covers config route
  | base : IsRooted route → route = Text.trimEndOf '/' config.baseUrl → Covers config route

section Covered

variable {config : SiteConfig} {route : String}

theorem resolvePath_below (below : config.baseUrl.toList <+: route.toList) :
    config.resolvePath route = route :=
  Route.withBaseUrl_below below

/-- The base URL is its trimmed form with slashes behind it. -/
theorem exists_slashes (text : String) : ∃ slashes, text =
    String.ofList ((Text.trimEndOf '/' text).toList ++ List.replicate slashes '/') := by
  obtain ⟨dropped, split, areSlashes⟩ := Text.exists_dropEndWhile_append (· == '/') text.toList
  refine ⟨dropped.length, ?_⟩
  have same : dropped = List.replicate dropped.length '/' :=
    List.eq_replicate_of_mem fun c member => beq_iff_eq.mp (areSlashes c member)
  rw [← same, Text.toList_trimEndOf, ← split, String.ofList_toList]

/-- **A covered route keeps its normal form when it is put below the base URL.** -/
theorem normalize_resolvePath (served : Route.IsServed route) (covered : config.Covers route) :
    Route.normalize (config.resolvePath route) = Route.normalize route := by
  cases covered with
  | below below => rw [resolvePath_below below]
  | base rooted same =>
    obtain ⟨path, slash, rfl⟩ := served
    obtain ⟨slashes, spelled⟩ := exists_slashes config.baseUrl
    have notRoot : Route.normalize path ≠ "/" := by
      intro isRoot
      have last : '/' ∈ (Text.dropEndWhile (· == '/') config.baseUrl.toList).getLast? := by
        rw [← Text.toList_trimEndOf, ← same, isRoot]
        rfl
      exact absurd (Text.getLast?_dropEndWhile last) (by decide)
    have leads : config.resolvePath (Route.normalize path) = config.baseUrl := by
      rw [same]
      exact Route.withBaseUrl_bare config.baseUrl
    rw [leads, spelled, ← same, Route.normalize_slashes slash rooted notRoot,
      Route.normalize_again slash rooted]

end Covered

/-! ## Links to routes -/

/-- A route with the ending of a Markdown file. -/
def Route.NamesMarkdown (route : String) : Prop :=
  ['.', 'm', 'd'] <:+ route.toList ∨ ['.', 'm', 'd', 'x'] <:+ route.toList

/-- A link to a route leads there from every page: the route is empty or leaves the site, or it is
covered by the base URL. -/
def SiteConfig.Links (config : SiteConfig) (route : String) : Prop :=
  route = "" ∨ isExternal route = true ∨ config.Covers route

section Links

variable {config : SiteConfig} {tree : ContentTree} {file : ContentFile} {route : String}

theorem Route.IsServed.cutSuffixes_eq (served : IsServed route) : cutSuffixes route = route := by
  obtain ⟨path, slash, rfl⟩ := served
  exact cutSuffixes_normalize slash

/-- A base URL is written as it is served: it is the root, or a normal form with a slash behind it. -/
inductive SiteConfig.WritesBase (config : SiteConfig) : Prop
  | root : config.baseUrl = "/" → WritesBase config
  | directory {front : String} : IsRooted front → front ≠ "/" → Route.normalize front = front →
      config.baseUrl = front ++ "/" → WritesBase config

/-- A route is that of the base URL, or it lies below it. -/
def SiteConfig.LiesAbove (config : SiteConfig) (route : String) : Prop :=
  route = Route.normalize config.baseUrl ∨
    (Text.trimEndOf '/' (Route.normalize config.baseUrl) ++ "/").toList <+: route.toList

/-- **Where the base URL is written as it is served, a link leads to every route at or below it.** -/
theorem SiteConfig.WritesBase.links (written : config.WritesBase) (lies : config.LiesAbove route) :
    config.Links route := by
  cases written with
  | root atRoot =>
    refine .inr (.inr (.below ?_))
    have normal : Route.normalize "/" = "/" := by decide +kernel
    rw [LiesAbove, atRoot, normal] at lies
    rw [atRoot]
    rcases lies with rfl | below
    · exact List.prefix_rfl
    · exact below
  | @directory front rooted notRoot normal spelled =>
    have slash : front.toList.head? = some '/' := (Url.isRooted_iff.mp rooted).1
    have closed : ∀ c ∈ front.toList.getLast?, (c == '/') = false := by
      intro c last
      rw [beq_eq_false_iff_ne]
      rintro rfl
      rw [← normal] at last
      exact notRoot (normal.symm.trans (Route.getLast?_normalize slash last))
    have same : String.ofList (front.toList ++ List.replicate 1 '/') = front ++ "/" := by
      rw [← String.toList_inj, String.toList_ofList, String.toList_append]
      rfl
    have base : Route.normalize config.baseUrl = front := by
      have slashes :=
        Route.normalize_slashes slash (normal.symm ▸ rooted) (normal.symm ▸ notRoot) 1
      rwa [normal, same, ← spelled] at slashes
    have bare : Text.trimEndOf '/' config.baseUrl = front := by
      rw [spelled, ← same, Text.trimEndOf, String.toList_ofList, List.replicate_one,
        Text.dropEndWhile_concat, if_pos (beq_self_eq_true '/'),
        Text.dropEndWhile_eq_self closed, String.ofList_toList]
    have trimmed : Text.trimEndOf '/' front = front := by
      rw [Text.trimEndOf, Text.dropEndWhile_eq_self closed, String.ofList_toList]
    rw [LiesAbove, base, trimmed, ← spelled] at lies
    rcases lies with rfl | below
    · exact .inr (.inr (.base rooted bare.symm))
    · exact .inr (.inr (.below below))

/-- The site serves what a covered route of one of its files is resolved to. -/
theorem serves_resolvePath (served : Route.IsServed route) (covered : config.Covers route)
    (member : file ∈ tree.files) (published : file.route = some route) :
    tree.Serves (config.resolvePath route) :=
  ⟨file, member, route, published, (normalize_resolvePath served covered).symm⟩

theorem path_servedRoute (served : Route.IsServed route) {place : PublishedLink}
    (target : place.link.target = route) : place.link.path = route := by
  rw [MarkdownLink.path, target, served.cutSuffixes_eq]

/-- A link whose target is a route leads to another place of the site. -/
theorem not_staysAside_servedRoute (served : Route.IsServed route) (named : route ≠ "")
    (inside : isExternal route = false) {place : PublishedLink} (target : place.link.target = route) :
    ¬ place.link.StaysAside := by
  rintro (noPath | onPage | external)
  · exact named ((path_servedRoute served target).symm.trans noPath)
  · rw [target, served.isInForm.start.resolve_left named] at onPage
    exact absurd (Option.some.inj onPage) (by decide)
  · rw [target, inside] at external
    cases external

/-- **A link to a route with the ending of a Markdown file has to stand for a published one.** -/
theorem linkVerdict_markdownRoute (served : Route.IsServed route) (named : route ≠ "")
    (inside : isExternal route = false) (isFile : Route.NamesMarkdown route) {place : PublishedLink}
    (target : place.link.target = route) :
    LinkVerdict config tree place none ↔
      ∃ file, RefersTo config tree place.page.sitePath (Text.Percent.decode route) file ∧
        file.route ≠ none := by
  have onSite := not_staysAside_servedRoute served named inside target
  have path := path_servedRoute served target
  have reference : place.link.IsReference := by
    rwa [MarkdownLink.IsReference, path]
  rw [← path]
  constructor
  · intro given
    cases given with
    | aside aside => exact absurd aside onSite
    | file _ _ refers published => exact ⟨_, refers, by simp [published]⟩
    | served _ noReference => exact absurd reference noReference
  · rintro ⟨file, refers, published⟩
    obtain ⟨route, published⟩ := Option.ne_none_iff_exists'.mp published
    exact .file onSite reference refers published

/-- **A link to any other route has the verdict of what the route is resolved to.** -/
theorem linkVerdict_resolved (served : Route.IsServed route) (named : route ≠ "")
    (inside : isExternal route = false) (isRoute : ¬ Route.NamesMarkdown route)
    {place : PublishedLink} (target : place.link.target = route) :
    (tree.Serves (config.resolvePath route) → LinkVerdict config tree place none) ∧
      (¬ tree.Serves (config.resolvePath route) → LinkVerdict config tree place (some (.link {
        source := .markdown place.page.sitePath place.link.line
        target := route
        resolved := config.resolvePath route }))) := by
  have onSite := not_staysAside_servedRoute served named inside target
  have path := path_servedRoute served target
  have noReference : ¬ place.link.IsReference := by
    rwa [MarkdownLink.IsReference, path]
  have leads : LeadsTo config place.route place.link.path (config.resolvePath route) := by
    rw [path]
    exact .rooted (List.singleton_prefix_iff_head?_eq_some.mpr
      (served.isInForm.start.resolve_left named))
  refine ⟨.served onSite noReference leads, fun missing => ?_⟩
  rw [← target] at leads missing ⊢
  exact .missing onSite noReference leads missing

/-- **Nothing is wrong with a link to a route of the site that leads there.** -/
theorem linkVerdict_servedRoute (served : Route.IsServed route) (linked : config.Links route)
    (isRoute : ¬ Route.NamesMarkdown route) (member : file ∈ tree.files)
    (published : file.route = some route) {place : PublishedLink}
    (target : place.link.target = route) : LinkVerdict config tree place none := by
  by_cases named : route = ""
  · exact .aside (.inl ((path_servedRoute served target).trans named))
  cases inside : isExternal route with
  | true => exact .aside (.inr (.inr (target ▸ inside)))
  | false =>
    rcases linked with empty | external | covered
    · exact absurd empty named
    · rw [inside] at external
      cases external
    · exact (linkVerdict_resolved served named inside isRoute target).1
        (serves_resolvePath served covered member published)

end Links

/-! ## Reports -/

section Reports

variable {declared : SiteDeclaration} {config : SiteConfig} {disk : Disk} {siteDir : Path}
  {tree : ContentTree} {file : ContentFile} {route : String}

/-- **What a site serves can be linked, below its base URL as that is written.** On a site whose
configuration is accepted and whose content is discovered, let the target of a link be a route of the
site. Where the route has the ending of a Markdown file, the link has to stand for such a file.

For any other route, nothing is reported for the link if it leads to the route, and it does if the base
URL is written as it is served and the route lies there or below. Otherwise the link has the verdict of
what the route is resolved to; where the route does not have the base URL in front as that is written,
this is the route below the base URL once more. -/
theorem checkLinks_servedRoute (accepted : (validate declared).Gives config)
    (discovered : ContentTree.DiscoveredOn disk siteDir config tree) (member : file ∈ tree.files)
    (published : file.route = some route) :
    (¬ Route.NamesMarkdown route → config.Links route →
      (∀ place ∈ tree.publishedLinks, place.link.target = route →
        LinkVerdict config tree place none) ∧
      (∀ broken ∈ (checkLinks config tree).value.brokenLinks, broken.target = route →
        ∃ origin, broken.source = .config origin) ∧
      ∀ broken ∈ (checkLinks config tree).value.brokenReferences, broken.target ≠ route) ∧
    (config.WritesBase → config.LiesAbove route → config.Links route) ∧
    (route ≠ "" → isExternal route = false →
      ∀ place ∈ tree.publishedLinks, place.link.target = route →
        (Route.NamesMarkdown route →
          (LinkVerdict config tree place none ↔
            ∃ file, RefersTo config tree place.page.sitePath (Text.Percent.decode route) file ∧
              file.route ≠ none)) ∧
        (¬ Route.NamesMarkdown route →
          (tree.Serves (config.resolvePath route) → LinkVerdict config tree place none) ∧
          (¬ tree.Serves (config.resolvePath route) → LinkVerdict config tree place (some (.link {
            source := .markdown place.page.sitePath place.link.line
            target := route
            resolved := config.resolvePath route }))))) ∧
    (¬ config.baseUrl.toList <+: route.toList → route ≠ Text.trimEndOf '/' config.baseUrl →
      config.resolvePath route = config.baseUrl ++ Text.trimStartOf '/' route) := by
  obtain ⟨text, -, below⟩ := (gives_validate.mp accepted).baseUrl
  have served := discovered.isServed below.head?_eq member published
  refine ⟨fun isRoute linked => ?_, fun written => written.links, fun named inside place _ target =>
    ⟨fun isFile => linkVerdict_markdownRoute served named inside isFile target,
      fun isRoute => linkVerdict_resolved served named inside isRoute target⟩, Route.withBaseUrl_apart⟩
  -- One link has one verdict, so nothing can be found where nothing is wrong.
  have noFinding {place : PublishedLink} {finding : Finding}
      (given : LinkVerdict config tree place (some finding)) : place.link.target ≠ route := by
    intro target
    have here := (linkVerdict_iff place _).mp given
    rw [(linkVerdict_iff place _).mp
      (linkVerdict_servedRoute served linked isRoute member published target)] at here
    cases here
  refine ⟨fun place _ => linkVerdict_servedRoute served linked isRoute member published,
    fun broken found target => ?_, fun broken found target => ?_⟩
  · rcases mem_brokenLinks_iff.mp found with ⟨link, -, given⟩ | ⟨place, -, given⟩
    · cases given with
      | missing => exact ⟨_, rfl⟩
    · exact absurd (given.of_link.2.symm.trans target) (noFinding given)
  · obtain ⟨place, -, given⟩ := mem_brokenReferences_iff.mp found
    exact noFinding given (given.of_reference.2.2.symm.trans target)

end Reports

/-! ## A site below a base URL -/

/-- A site that is served below a base URL, as it is declared. -/
def SiteDeclaration.below (baseUrl : String) : SiteDeclaration where
  title := some "Site"
  url := some "https://example.org"
  baseUrl := some baseUrl

/-- The configuration of that site. -/
def SiteConfig.below (baseUrl : String) : SiteConfig :=
  { SiteConfig.bare with baseUrl }

/-- A page that links to an image. -/
def imageDisk : Disk := { top := .directory [
  ("src", .directory [("pages", .directory [
    ("index.md", .file (.text "[logo](/app/logo.png)"))])]),
  ("static", .directory [("logo.png", .file .binary)])] }

/-- Nothing is reported for a link to an image that is served below a base URL of letters. -/
theorem checkLinks_servedRoute_image :
    (validate (.below "/app/")).Gives (.below "/app/") ∧ (SiteConfig.below "/app/").WritesBase ∧
      ∃ tree file, ContentTree.DiscoveredOn imageDisk ⟨"."⟩ (.below "/app/") tree ∧
        file ∈ tree.files ∧ file.route = some "/app/logo.png" ∧
        tree.publishedLinks.map (·.link.target) = ["/app/logo.png"] ∧
        (∀ place ∈ tree.publishedLinks, place.link.target = "/app/logo.png" →
          LinkVerdict (.below "/app/") tree place none) ∧
        (∀ broken ∈ (checkLinks (.below "/app/") tree).value.brokenLinks,
          broken.target = "/app/logo.png" → ∃ origin, broken.source = .config origin) ∧
        ∀ broken ∈ (checkLinks (.below "/app/") tree).value.brokenReferences,
          broken.target ≠ "/app/logo.png" := by
  have accepted : (validate (.below "/app/")).Gives (.below "/app/") := by decide +kernel
  have written : (SiteConfig.below "/app/").WritesBase :=
    @SiteConfig.WritesBase.directory _ "/app" (by decide) (by decide) (by decide +kernel) (by decide)
  obtain ⟨tree, discovered, shown⟩ :
      ∃ tree, ContentTree.DiscoveredOn imageDisk ⟨"."⟩ (.below "/app/") tree ∧
        (tree.files.map ContentFile.route, tree.publishedLinks.map (·.link.target)) =
          ([some "/app", some "/app/logo.png"], ["/app/logo.png"]) :=
    ContentTree.exists_of_view (by decide +kernel)
  obtain ⟨routes, links⟩ := Prod.mk.inj shown
  have served : some "/app/logo.png" ∈ tree.files.map ContentFile.route := by
    rw [routes]
    decide
  obtain ⟨file, member, published⟩ := List.mem_map.mp served
  have lies : (SiteConfig.below "/app/").LiesAbove "/app/logo.png" :=
    .inr (List.isPrefixOf_iff_prefix.mp (by decide +kernel))
  have isRoute : ¬ Route.NamesMarkdown "/app/logo.png" := by
    rw [Route.NamesMarkdown, ← List.isSuffixOf_iff_suffix, ← List.isSuffixOf_iff_suffix]
    decide +kernel
  obtain ⟨nothing, linked, -⟩ := checkLinks_servedRoute accepted discovered member published
  exact ⟨accepted, written, tree, file, discovered, member, published, links,
    nothing isRoute (linked written lies)⟩

/-- A page that links to its own route, below a base URL with a blank in it. -/
def spacedDisk : Disk := { top := .directory [
  ("docs", .directory [("intro.md", .file (.text "[here](/my%20site/docs/intro)"))])] }

/-- The route is put below the base URL a second time, and the link is reported. -/
theorem checkLinks_encodedBase :
    (validate (.below "/my site/")).Gives (.below "/my site/") ∧
      ∃ tree, ContentTree.DiscoveredOn spacedDisk ⟨"."⟩ (.below "/my site/") tree ∧
        tree.files.map ContentFile.route = [some "/my%20site/docs/intro"] ∧
        tree.publishedLinks.map (·.link.target) = ["/my%20site/docs/intro"] ∧
        Route.normalize (SiteConfig.below "/my site/").baseUrl = "/my%20site" ∧
        (checkLinks (.below "/my site/") tree).value = {
          brokenLinks := [{
            source := .markdown ⟨"docs/intro.md"⟩ 1
            target := "/my%20site/docs/intro"
            resolved := "/my site/my%20site/docs/intro" }]
          brokenReferences := [] } := by
  obtain ⟨tree, discovered, shown⟩ :
      ∃ tree, ContentTree.DiscoveredOn spacedDisk ⟨"."⟩ (.below "/my site/") tree ∧
        (tree.files.map ContentFile.route, tree.publishedLinks.map (·.link.target),
          (checkLinks (.below "/my site/") tree).value) =
          ([some "/my%20site/docs/intro"], ["/my%20site/docs/intro"], {
            brokenLinks := [{
              source := .markdown ⟨"docs/intro.md"⟩ 1
              target := "/my%20site/docs/intro"
              resolved := "/my site/my%20site/docs/intro" }]
            brokenReferences := [] }) :=
    ContentTree.exists_of_view (by decide +kernel)
  obtain ⟨routes, rest⟩ := Prod.mk.inj shown
  obtain ⟨links, report⟩ := Prod.mk.inj rest
  exact ⟨by decide +kernel, tree, discovered, routes, links, by decide +kernel, report⟩

end Docsite
