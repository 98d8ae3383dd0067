/-
**What a check finds.**

Every link of the configuration and every link of a published page has one verdict: nothing is wrong
with it, or one thing is. The verdicts are given here by rules, without saying how they are found, and
a check is shown to find them.

* `EntryVerdict`, `LinkVerdict`: the rules for the configuration and for pages.
* `linkVerdict_iff`: the rules for pages decide every link, in one way.
* `mem_brokenLinks_iff`, `mem_brokenReferences_iff`: what a report names is what the rules find.
* `checkLinks_verdicts`: a report lists what the verdicts say, in order, and nothing else.
-/

import Docsite.Proofs.Check.Reference
import Docsite.Proofs.Config.Navigation
import Docsite.Proofs.List.Correspondence

namespace Docsite

/-! ## Links of the configuration -/

/-- What is wrong with a link of the configuration: its target, below the base URL, is served
nowhere. -/
inductive EntryVerdict (config : SiteConfig) (tree : ContentTree) (link : ConfigLink) :
    Option BrokenLink → Prop
  | served : tree.Serves (config.resolvePath link.target) → EntryVerdict config tree link none
  | missing : ¬ tree.Serves (config.resolvePath link.target) →
      EntryVerdict config tree link (some {
        source := .config link.origin.text
        target := link.target
        resolved := config.resolvePath link.target })

theorem entryVerdict_iff {config : SiteConfig} {tree : ContentTree} (link : ConfigLink)
    (verdict : Option BrokenLink) :
    EntryVerdict config tree link verdict ↔
      brokenConfigLink? config tree.routes link = verdict := by
  unfold brokenConfigLink?
  by_cases served : tree.Serves (config.resolvePath link.target)
  · rw [if_pos (ContentTree.contains_routes.mpr served)]
    constructor
    · rintro (_ | missing)
      · rfl
      · exact absurd served missing
    · rintro rfl
      exact .served served
  · rw [if_neg fun found => served (ContentTree.contains_routes.mp found)]
    constructor
    · rintro (found | _)
      · exact absurd found served
      · rfl
    · rintro rfl
      exact .missing served

/-! ## Links of pages -/

/-- A link on a page that is served. -/
structure PublishedLink where
  page : ContentFile
  /-- Where the page is served. -/
  route : String
  link : MarkdownLink

/-- A documentation page or a standalone page, by its extension a Markdown file. -/
structure ContentFile.IsMarkdownPage (file : ContentFile) : Prop where
  kind : file.kind = .doc ∨ file.kind = .page
  extension : file.sitePath.extension = "md" ∨ file.sitePath.extension = "mdx"

theorem ContentFile.isMarkdown_iff {file : ContentFile} :
    file.isMarkdown = true ↔ file.IsMarkdownPage := by
  have notStatic : file.kind ≠ .static ↔ file.kind = .doc ∨ file.kind = .page := by
    cases file.kind <;> simp
  simp only [isMarkdown, ContentKind.isMarkdownExtension, Bool.and_eq_true, bne_iff_ne,
    decide_eq_true_eq, List.mem_cons, List.not_mem_nil, or_false, notStatic]
  exact ⟨fun ⟨kind, extension⟩ => ⟨kind, extension⟩, fun page => ⟨page.kind, page.extension⟩⟩

instance (file : ContentFile) : Decidable file.IsMarkdownPage :=
  decidable_of_iff _ ContentFile.isMarkdown_iff

/-- Every link of the published Markdown pages of a site, in order. -/
def ContentTree.publishedLinks (tree : ContentTree) : List PublishedLink :=
  (tree.files.filter (·.IsMarkdownPage)).flatMap fun page =>
    page.route.toList.flatMap fun route => page.links.map fun link => { page, route, link }

theorem ContentTree.markdownFiles_eq (tree : ContentTree) :
    tree.markdownFiles = tree.files.filter (·.IsMarkdownPage) := by
  rw [markdownFiles]
  congr 1
  funext file
  rw [Bool.eq_iff_iff, ContentFile.isMarkdown_iff, decide_eq_true_eq]

namespace MarkdownLink

/-- A link that does not lead to another place of the site: it has no path, it is a place on the page
itself, or it leaves the site. -/
def StaysAside (link : MarkdownLink) : Prop :=
  link.path = "" ∨ link.target.toList.head? = some '#' ∨ isExternal link.target = true

/-- A link whose path has the ending of a Markdown file. -/
def IsReference (link : MarkdownLink) : Prop :=
  ['.', 'm', 'd'] <:+ link.path.toList ∨ ['.', 'm', 'd', 'x'] <:+ link.path.toList

theorem staysOnSite_iff {link : MarkdownLink} :
    staysOnSite link = true ↔ ¬ link.StaysAside := by
  simp [staysOnSite, StaysAside, isFragmentOnly, and_assoc]

theorem isFileReference_iff {link : MarkdownLink} :
    link.isFileReference = true ↔ link.IsReference := by
  rw [isFileReference, Bool.or_eq_true, List.isSuffixOf_iff_suffix, List.isSuffixOf_iff_suffix]
  rfl

end MarkdownLink

/-- What a path on a page leads to: from the root it goes below the base URL, else it is resolved
like a relative address, from inside the page where pages are served as directories. -/
inductive LeadsTo (config : SiteConfig) (route path : String) : String → Prop
  | rooted : ['/'] <+: path.toList → LeadsTo config route path (config.resolvePath path)
  | insidePage : ¬ ['/'] <+: path.toList → config.trailingSlash = some true →
      LeadsTo config route path (Route.resolve (Text.trimEndOf '/' route ++ "/") path)
  | besidePage : ¬ ['/'] <+: path.toList → config.trailingSlash ≠ some true →
      LeadsTo config route path (Route.resolve route path)

theorem leadsTo_iff {config : SiteConfig} {route path resolved : String} :
    LeadsTo config route path resolved ↔ resolveOnPage config route path = resolved := by
  have rooted : Text.startsWith "/" path = true ↔ ['/'] <+: path.toList :=
    List.isPrefixOf_iff_prefix
  unfold resolveOnPage
  by_cases start : ['/'] <+: path.toList
  · rw [if_pos (rooted.mpr start)]
    constructor
    · rintro (_ | ⟨relative, _⟩ | ⟨relative, _⟩)
      · rfl
      · exact absurd start relative
      · exact absurd start relative
    · rintro rfl
      exact .rooted start
  · rw [if_neg fun found => start (rooted.mp found)]
    by_cases inside : config.trailingSlash = some true
    · rw [if_pos (beq_iff_eq.mpr inside)]
      constructor
      · rintro (found | _ | ⟨_, beside⟩)
        · exact absurd found start
        · rfl
        · exact absurd inside beside
      · rintro rfl
        exact .insidePage start inside
    · rw [if_neg fun found => inside (beq_iff_eq.mp found)]
      constructor
      · rintro (found | ⟨_, found⟩ | _)
        · exact absurd found start
        · exact absurd found inside
        · rfl
      · rintro rfl
        exact .besidePage start inside

/-- What is wrong with a link of a published page. Nothing is wrong with a link that does not lead to
another place of the site. A reference must stand for a published file; any other link must lead to
a route. -/
inductive LinkVerdict (config : SiteConfig) (tree : ContentTree) (published : PublishedLink) :
    Option Finding → Prop
  | aside : published.link.StaysAside → LinkVerdict config tree published none
  | unknownFile : ¬ published.link.StaysAside → published.link.IsReference →
      (∀ turn path, ReferencePlace config published.page.sitePath
        (Text.Percent.decode published.link.path) turn path → ¬ tree.Holds path) →
      LinkVerdict config tree published (some (.reference {
        file := published.page.sitePath
        line := published.link.line
        target := published.link.target }))
  | draft {file : ContentFile} : ¬ published.link.StaysAside → published.link.IsReference →
      RefersTo config tree published.page.sitePath (Text.Percent.decode published.link.path) file →
      file.route = none →
      LinkVerdict config tree published (some (.link {
        source := .markdown published.page.sitePath published.link.line
        target := published.link.target
        resolved := file.sitePath.text }))
  | file {file : ContentFile} {route : String} : ¬ published.link.StaysAside →
      published.link.IsReference →
      RefersTo config tree published.page.sitePath (Text.Percent.decode published.link.path) file →
      file.route = some route → LinkVerdict config tree published none
  | served {resolved : String} : ¬ published.link.StaysAside → ¬ published.link.IsReference →
      LeadsTo config published.route published.link.path resolved → tree.Serves resolved →
      LinkVerdict config tree published none
  | missing {resolved : String} : ¬ published.link.StaysAside → ¬ published.link.IsReference →
      LeadsTo config published.route published.link.path resolved → ¬ tree.Serves resolved →
      LinkVerdict config tree published (some (.link {
        source := .markdown published.page.sitePath published.link.line
        target := published.link.target
        resolved }))

section Rules

variable {config : SiteConfig} {tree : ContentTree} {place : PublishedLink}

/-- A broken link that is found says where the link stands and what it names. -/
theorem LinkVerdict.of_link {broken : BrokenLink}
    (given : LinkVerdict config tree place (some (.link broken))) :
    broken.source = .markdown place.page.sitePath place.link.line ∧
      broken.target = place.link.target := by
  cases given with
  | draft => exact ⟨rfl, rfl⟩
  | missing => exact ⟨rfl, rfl⟩

theorem LinkVerdict.of_reference {broken : BrokenReference}
    (given : LinkVerdict config tree place (some (.reference broken))) :
    broken.file = place.page.sitePath ∧ broken.line = place.link.line ∧
      broken.target = place.link.target := by
  cases given with
  | unknownFile => exact ⟨rfl, rfl, rfl⟩

end Rules

section Links

variable {config : SiteConfig} {tree : ContentTree} {page : ContentFile} {route : String}
  {link : MarkdownLink}

theorem findingOf?_aside (aside : link.StaysAside) :
    findingOf? config tree page route link = none := by
  have notOnSite : staysOnSite link = false := by
    rw [← Bool.not_eq_true, MarkdownLink.staysOnSite_iff, not_not]
    exact aside
  simp [findingOf?, notOnSite]

theorem findingOf?_unknownFile (onSite : ¬ link.StaysAside) (reference : link.IsReference)
    (nowhere : referencedFile? config tree page.sitePath (Text.Percent.decode link.path) = none) :
    findingOf? config tree page route link =
      some (.reference { file := page.sitePath, line := link.line, target := link.target }) := by
  simp [findingOf?, MarkdownLink.staysOnSite_iff.mpr onSite,
    MarkdownLink.isFileReference_iff.mpr reference, nowhere]

theorem findingOf?_draft {file : ContentFile} (onSite : ¬ link.StaysAside)
    (reference : link.IsReference)
    (found : referencedFile? config tree page.sitePath (Text.Percent.decode link.path) = some file)
    (draft : file.route = none) :
    findingOf? config tree page route link =
      some (.link {
        source := .markdown page.sitePath link.line
        target := link.target
        resolved := file.sitePath.text }) := by
  simp [findingOf?, MarkdownLink.staysOnSite_iff.mpr onSite,
    MarkdownLink.isFileReference_iff.mpr reference, found, draft]

theorem findingOf?_file {file : ContentFile} {served : String} (onSite : ¬ link.StaysAside)
    (reference : link.IsReference)
    (found : referencedFile? config tree page.sitePath (Text.Percent.decode link.path) = some file)
    (published : file.route = some served) :
    findingOf? config tree page route link = none := by
  simp [findingOf?, MarkdownLink.staysOnSite_iff.mpr onSite,
    MarkdownLink.isFileReference_iff.mpr reference, found, published]

theorem findingOf?_path (onSite : ¬ link.StaysAside) (path : ¬ link.IsReference) :
    findingOf? config tree page route link =
      if tree.routes.contains (resolveOnPage config route link.path) then none
      else some (.link {
        source := .markdown page.sitePath link.line
        target := link.target
        resolved := resolveOnPage config route link.path }) := by
  have noReference : link.isFileReference = false := by
    rw [← Bool.not_eq_true, MarkdownLink.isFileReference_iff]
    exact path
  simp [findingOf?, MarkdownLink.staysOnSite_iff.mpr onSite, noReference]

/-- Every verdict of the rules is what is found. -/
theorem LinkVerdict.findingOf?_eq {verdict : Option Finding}
    (given : LinkVerdict config tree ⟨page, route, link⟩ verdict) :
    findingOf? config tree page route link = verdict := by
  cases given with
  | aside aside => exact findingOf?_aside aside
  | unknownFile onSite reference nowhere =>
    exact findingOf?_unknownFile onSite reference (referencedFile?_eq_none.mpr nowhere)
  | draft onSite reference refers draft =>
    exact findingOf?_draft onSite reference (referencedFile?_eq_some.mpr refers) draft
  | file onSite reference refers published =>
    exact findingOf?_file onSite reference (referencedFile?_eq_some.mpr refers) published
  | served onSite path leads served =>
    rw [findingOf?_path onSite path, leadsTo_iff.mp leads,
      if_pos (ContentTree.contains_routes.mpr served)]
  | missing onSite path leads missing =>
    rw [findingOf?_path onSite path, leadsTo_iff.mp leads,
      if_neg fun found => missing (ContentTree.contains_routes.mp found)]

/-- What is found is a verdict of the rules. -/
theorem linkVerdict_findingOf? :
    LinkVerdict config tree ⟨page, route, link⟩ (findingOf? config tree page route link) := by
  by_cases aside : link.StaysAside
  · rw [findingOf?_aside aside]
    exact .aside aside
  by_cases reference : link.IsReference
  · match found : referencedFile? config tree page.sitePath (Text.Percent.decode link.path) with
    | none =>
      rw [findingOf?_unknownFile aside reference found]
      exact .unknownFile aside reference (referencedFile?_eq_none.mp found)
    | some file =>
      have refers := referencedFile?_eq_some.mp found
      match published : file.route with
      | none =>
        rw [findingOf?_draft aside reference found published]
        exact .draft aside reference refers published
      | some served =>
        rw [findingOf?_file aside reference found published]
        exact .file aside reference refers published
  · rw [findingOf?_path aside reference]
    split
    · next found =>
      exact .served aside reference (leadsTo_iff.mpr rfl) (ContentTree.contains_routes.mp found)
    · next missing =>
      exact .missing aside reference (leadsTo_iff.mpr rfl)
        fun served => missing (ContentTree.contains_routes.mpr served)

end Links

/-! ## Reports -/

/-- What is found for a link at its place. -/
def findingAt? (config : SiteConfig) (tree : ContentTree) (place : PublishedLink) :
    Option Finding :=
  findingOf? config tree place.page place.route place.link

/-- **The rules give every link exactly one verdict, the one that is found.** -/
theorem linkVerdict_iff {config : SiteConfig} {tree : ContentTree} (place : PublishedLink)
    (verdict : Option Finding) :
    LinkVerdict config tree place verdict ↔ findingAt? config tree place = verdict := by
  constructor
  · exact LinkVerdict.findingOf?_eq
  · rintro rfl
    exact linkVerdict_findingOf?

theorem flatMap_findingsOf (config : SiteConfig) (tree : ContentTree) :
    tree.markdownFiles.flatMap (findingsOf config tree) =
      tree.publishedLinks.filterMap (findingAt? config tree) := by
  have here (page : ContentFile) (route : String) :
      findingOf? config tree page route =
        findingAt? config tree ∘ fun link => { page, route, link } := by
    funext link
    rw [Function.comp_apply, findingAt?]
  rw [ContentTree.publishedLinks, ContentTree.markdownFiles_eq, List.filterMap_flatMap]
  congr 1
  funext page
  cases published : page.route with
  | none => simp [findingsOf, published]
  | some route =>
    simp only [findingsOf, published, Option.toList_some, List.flatMap_cons, List.flatMap_nil,
      List.append_nil, List.filterMap_map, here]

theorem brokenLinks_ofSite (config : SiteConfig) (tree : ContentTree) :
    (LinkReport.ofSite config tree).brokenLinks =
      config.internalLinks.filterMap (brokenConfigLink? config tree.routes) ++
        (tree.markdownFiles.flatMap (findingsOf config tree)).filterMap Finding.link? := by
  have kept : Finding.link? ∘ Finding.link = some := rfl
  simp only [LinkReport.ofSite, findings, List.filterMap_append, List.filterMap_map, kept,
    List.filterMap_some]

theorem brokenReferences_ofSite (config : SiteConfig) (tree : ContentTree) :
    (LinkReport.ofSite config tree).brokenReferences =
      (tree.markdownFiles.flatMap (findingsOf config tree)).filterMap Finding.reference? := by
  have left : Finding.reference? ∘ Finding.link = fun _ => none := rfl
  simp only [LinkReport.ofSite, findings, List.filterMap_append, List.filterMap_map, left,
    List.filterMap_none, List.nil_append]

/-- **A broken link is listed exactly if it is what is wrong with a link of the configuration or of a
published page.** -/
theorem mem_brokenLinks_iff {config : SiteConfig} {tree : ContentTree} {broken : BrokenLink} :
    broken ∈ (checkLinks config tree).value.brokenLinks ↔
      (∃ link ∈ config.internalLinks, EntryVerdict config tree link (some broken)) ∨
        ∃ place ∈ tree.publishedLinks, LinkVerdict config tree place (some (.link broken)) := by
  have isLink {finding : Finding} : finding.link? = some broken ↔ finding = .link broken := by
    cases finding <;> simp [Finding.link?]
  show broken ∈ (LinkReport.ofSite config tree).brokenLinks ↔ _
  simp only [brokenLinks_ofSite, flatMap_findingsOf, List.mem_append, List.mem_filterMap,
    entryVerdict_iff, linkVerdict_iff, isLink, exists_eq_right]

/-- A broken reference is listed exactly if it is what is wrong with a link of a published page. -/
theorem mem_brokenReferences_iff {config : SiteConfig} {tree : ContentTree}
    {broken : BrokenReference} :
    broken ∈ (checkLinks config tree).value.brokenReferences ↔
      ∃ place ∈ tree.publishedLinks, LinkVerdict config tree place (some (.reference broken)) := by
  have isReference {finding : Finding} :
      finding.reference? = some broken ↔ finding = .reference broken := by
    cases finding <;> simp [Finding.reference?]
  show broken ∈ (LinkReport.ofSite config tree).brokenReferences ↔ _
  simp only [brokenReferences_ofSite, flatMap_findingsOf, List.mem_filterMap, linkVerdict_iff,
    isReference, exists_eq_right]

/-- Findings are told apart: the broken links among them, and the broken references, both in order. -/
inductive Finding.Splits : List Finding → List BrokenLink → List BrokenReference → Prop
  | nil : Splits [] [] []
  | link {broken : BrokenLink} {rest : List Finding} {links : List BrokenLink}
      {references : List BrokenReference} : Splits rest links references →
      Splits (.link broken :: rest) (broken :: links) references
  | reference {broken : BrokenReference} {rest : List Finding} {links : List BrokenLink}
      {references : List BrokenReference} : Splits rest links references →
      Splits (.reference broken :: rest) links (broken :: references)

/-- Findings are told apart in one way. -/
theorem Finding.splits_iff {findings : List Finding} {links : List BrokenLink}
    {references : List BrokenReference} : Splits findings links references ↔
      links = findings.filterMap link? ∧ references = findings.filterMap reference? := by
  constructor
  · intro split
    induction split with
    | nil => exact ⟨rfl, rfl⟩
    | link _ ih => exact ⟨congrArg (_ :: ·) ih.1, ih.2⟩
    | reference _ ih => exact ⟨ih.1, congrArg (_ :: ·) ih.2⟩
  · rintro ⟨rfl, rfl⟩
    induction findings with
    | nil => exact .nil
    | cons finding rest ih =>
      cases finding with
      | link broken => exact .link ih
      | reference broken => exact .reference ih

/-- **A check lists exactly what is wrong, each thing once and in order.** The links of the
configuration are those of its navigation, as declared. Each of them has one verdict, and so has each
link of a published page; the broken links are those of the configuration and then those of the
pages, and the broken references are those of the pages. -/
theorem checkLinks_verdicts (config : SiteConfig) (tree : ContentTree) :
    config.internalLinks = config.navigation.filterMap NavigationEntry.link? ∧
    ∃ (ofConfig : List (Option BrokenLink)) (ofPages : List (Option Finding)),
      (∀ verdicts, List.Forall₂ (EntryVerdict config tree) config.internalLinks verdicts ↔
        verdicts = ofConfig) ∧
      (∀ verdicts, List.Forall₂ (LinkVerdict config tree) tree.publishedLinks verdicts ↔
        verdicts = ofPages) ∧
      ∃ onPages,
        Finding.Splits ofPages.reduceOption onPages
          (checkLinks config tree).value.brokenReferences ∧
        (checkLinks config tree).value.brokenLinks = ofConfig.reduceOption ++ onPages := by
  refine ⟨config.internalLinks_eq, config.internalLinks.map (brokenConfigLink? config tree.routes),
    tree.publishedLinks.map (findingAt? config tree), forall₂_iff_eq_map entryVerdict_iff _,
    forall₂_iff_eq_map linkVerdict_iff _,
    (tree.publishedLinks.filterMap (findingAt? config tree)).filterMap Finding.link?, ?_, ?_⟩
  · show Finding.Splits _ _ (LinkReport.ofSite config tree).brokenReferences
    rw [brokenReferences_ofSite, flatMap_findingsOf, reduceOption_map]
    exact Finding.splits_iff.mpr ⟨rfl, rfl⟩
  · show (LinkReport.ofSite config tree).brokenLinks = _
    rw [brokenLinks_ofSite, flatMap_findingsOf, reduceOption_map]

/-- A site with an entry that leads nowhere, at the root. -/
def SiteConfig.astray : SiteConfig :=
  { SiteConfig.bare with
    navbar := { title := none, logo := none, items := [
      { label := "Lost", target := .path "lost", position := .left },
      { label := "Home", target := .path "/", position := .right }] } }

/-- A page with one link for each verdict, a draft, and a static file with the extension of a page. -/
def astrayTree : ContentTree where
  files := [
    { kind := .doc, sourcePath := ⟨"./docs/draft.md"⟩, sitePath := ⟨"docs/draft.md"⟩, route := none
      links := [⟨"/gone", 4⟩] },
    { kind := .page, sourcePath := ⟨"./src/pages/index.md"⟩, sitePath := ⟨"src/pages/index.md"⟩
      route := some "/"
      links := [⟨"#top", 1⟩, ⟨"/gone", 2⟩, ⟨"note.md", 3⟩, ⟨"draft.md", 4⟩, ⟨"index.md", 5⟩,
        ⟨"readme.md", 6⟩] },
    { kind := .static, sourcePath := ⟨"./static/readme.md"⟩, sitePath := ⟨"static/readme.md"⟩
      route := some "/readme.md" }]

/-- Of the six links of the page, two have nothing wrong with them. -/
theorem checkLinks_verdicts_astray :
    let lost : BrokenLink :=
      { source := .config "navbar item \"Lost\"", target := "lost", resolved := "/lost" }
    let gone : BrokenLink :=
      { source := .markdown ⟨"src/pages/index.md"⟩ 2, target := "/gone", resolved := "/gone" }
    let note : BrokenReference := ⟨⟨"src/pages/index.md"⟩, 3, "note.md"⟩
    let draft : BrokenLink :=
      { source := .markdown ⟨"src/pages/index.md"⟩ 4, target := "draft.md"
        resolved := "docs/draft.md" }
    let readme : BrokenReference := ⟨⟨"src/pages/index.md"⟩, 6, "readme.md"⟩
    List.Forall₂ (EntryVerdict .astray astrayTree) SiteConfig.astray.internalLinks
        [some lost, none] ∧
      List.Forall₂ (LinkVerdict .astray astrayTree) astrayTree.publishedLinks
        [none, some (.link gone), some (.reference note), some (.link draft), none,
          some (.reference readme)] ∧
      (checkLinks .astray astrayTree).value.brokenLinks = [lost, gone, draft] ∧
      (checkLinks .astray astrayTree).value.brokenReferences = [note, readme] := by
  intro lost gone note draft readme
  have ofConfig : List.Forall₂ (EntryVerdict .astray astrayTree) SiteConfig.astray.internalLinks
      [some lost, none] :=
    (forall₂_iff_eq_map entryVerdict_iff _ _).mpr (by decide +kernel)
  have ofPages : List.Forall₂ (LinkVerdict .astray astrayTree) astrayTree.publishedLinks
      [none, some (.link gone), some (.reference note), some (.link draft), none,
        some (.reference readme)] :=
    (forall₂_iff_eq_map linkVerdict_iff _ _).mpr (by decide +kernel)
  obtain ⟨-, entries, verdicts, isConfig, isPages, onPages, split, links⟩ :=
    checkLinks_verdicts .astray astrayTree
  rw [← (isPages _).mp ofPages] at split
  rw [← (isConfig _).mp ofConfig] at links
  obtain ⟨rfl, references⟩ := Finding.splits_iff.mp split
  exact ⟨ofConfig, ofPages, links, references⟩

end Docsite
