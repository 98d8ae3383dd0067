/-
**The site to start from, as it is read.**

The configuration of a new site is TOML, and no other format can read it. Its two pages start with
frontmatter, and they link to each other. What a check finds of them depends on which pages are there: with
both of them nothing is broken, and without one of them a link of the configuration is.

* `Scaffold.ofSource_config`: what each format reads of the configuration.
* `Scaffold.ofSource_page`: what becomes of a page.
* `LinkReport.ofSite_readFrom`: a report does not depend on where the files are read from.
* `Scaffold.report_whole`, `Scaffold.report_partial`: what a check finds of the pages.
-/

import Docsite.Proofs.CommandLine.Init
import Docsite.Proofs.Content.FramedPages

namespace Docsite

/-! ## Lines -/

namespace Scaffold

/-- The characters of a file are those of its lines, with a line feed behind each of them. -/
theorem toList_ofLines {lines : List String} {spellings : List (List Char)}
    (spelled : List.Forall₂ (fun line cs => line = String.ofList cs) lines spellings) :
    (ofLines lines).toList = ['\n'].intercalate spellings ++ ['\n'] := by
  have each : lines.map String.toList = spellings := by
    induction spelled with
    | nil => rfl
    | cons spells _ ih => rw [List.map_cons, spells, String.toList_ofList, ih]
  rw [ofLines, String.toList_append, Text.joinWith, String.toList_intercalate, each]
  rfl

/-- A file that starts with the lines of a block is a page with frontmatter. -/
theorem ofLines_front {lines : List String} (some : lines ≠ []) (block : String) :
    ofLines ("---" :: block :: "---" :: lines) = Frontmatter.front block ++ ofLines lines := by
  obtain ⟨line, rest, rfl⟩ := List.exists_cons_of_ne_nil some
  simp [← String.toList_inj, ofLines, Frontmatter.front, Text.joinWith, String.toList_intercalate]

/-! ## The configuration -/

/-- The configuration of a new site, once it is read. -/
def site : SiteConfig where
  title := "My Project"
  tagline := some "Documentation for My Project"
  url := "https://example.com"
  baseUrl := "/"
  favicon := none
  onBrokenLinks := .throw
  onBrokenMarkdownLinks := .warn
  trailingSlash := none
  organizationName := none
  projectName := none
  deploymentBranch := none
  headTags := []
  docs := { path := "docs", routeBasePath := "docs", sidebarPath := none, editUrl := none }
  pagesPath := "src/pages"
  staticDirectories := ["static"]
  customCss := none
  navbar := {
    title := some "My Project"
    logo := none
    items := [{ label := "Docs", target := .path "docs/intro", position := .left }] }
  footer := some {
    style := .dark
    links := [{
      title := "Docs"
      items := [{ label := "Getting Started", target := .path "docs/getting-started" }] }]
    logo := none
    copyright := some "Copyright © My Project." }

end Scaffold

/-- **The configuration of a new site is read as TOML, and it is malformed in any other format.** -/
theorem Scaffold.ofSource_config (format : ConfigFormat) :
    (SiteConfig.ofSource format config).run.value =
      if format = .toml then .ok site else .error (.malformed format) := by
  cases format with
  | toml =>
    rw [if_pos rfl, SiteConfig.ofSource, declaration?, Toml.read?, config, toList_ofLines ?spelled]
    case spelled => repeat' constructor
    decide +kernel
  | json =>
    have other : ConfigFormat.json ≠ .toml := by decide
    rw [if_neg other, SiteConfig.ofSource, declaration?, Json.read?, config, toList_ofLines ?spelled]
    case spelled => repeat' constructor
    decide +kernel
  | yaml =>
    have other : ConfigFormat.yaml ≠ .toml := by decide
    rw [if_neg other, SiteConfig.ofSource, declaration?, Yaml.Document.read?, config,
      toList_ofLines ?spelled]
    case spelled => repeat' constructor
    decide +kernel

/-! ## Where files are read from -/

/-- A file that is read from another path. -/
def ContentFile.readFrom (file : ContentFile) (path : Path) : ContentFile :=
  { file with sourcePath := path }

section Relocation

variable (config : SiteConfig) (tree : ContentTree) (path : Path)

/-- A site whose files are all read from another path. -/
def ContentTree.readFrom : ContentTree where
  files := tree.files.map (·.readFrom path)

theorem ContentTree.routes_readFrom : (tree.readFrom path).routes = tree.routes := by
  rw [(tree.readFrom path).routes_eq, tree.routes_eq, readFrom, List.filterMap_map]
  rfl

theorem ContentTree.source?_readFrom (wanted : Path) :
    (tree.readFrom path).source? wanted = (tree.source? wanted).map (·.readFrom path) := by
  have sameIndex : (tree.readFrom path).index = tree.index := by
    rw [(tree.readFrom path).index_eq, tree.index_eq]
    simp only [readFrom, SourceIndex.ofFiles, List.zipIdx_map, List.foldl_map]
    rfl
  rw [source?, source?, sameIndex, Option.map_bind]
  simp [readFrom]

theorem referencedFile?_readFrom (page : Path) (reference : String) :
    referencedFile? config (tree.readFrom path) page reference =
      (referencedFile? config tree page reference).map (·.readFrom path) := by
  rw [referencedFile?, referencedFile?, List.map_findSome?]
  congr 1
  funext candidate
  exact tree.source?_readFrom path candidate

theorem findingOf?_readFrom (page : ContentFile) (route : String) (link : MarkdownLink) :
    findingOf? config (tree.readFrom path) (page.readFrom path) route link =
      findingOf? config tree page route link := by
  have sameRoute (file : ContentFile) : (file.readFrom path).route = file.route := rfl
  have samePath (file : ContentFile) : (file.readFrom path).sitePath = file.sitePath := rfl
  simp only [findingOf?, samePath, referencedFile?_readFrom, tree.routes_readFrom]
  cases referencedFile? config tree page.sitePath (Text.Percent.decode link.path) with
  | none => rfl
  | some file => simp only [Option.map_some, sameRoute, samePath]

/-- **A report does not depend on where the files are read from.** -/
theorem LinkReport.ofSite_readFrom :
    LinkReport.ofSite config (tree.readFrom path) = LinkReport.ofSite config tree := by
  have ofPage (page : ContentFile) :
      findingsOf config (tree.readFrom path) (page.readFrom path) = findingsOf config tree page := by
    have sameRoute : (page.readFrom path).route = page.route := rfl
    have sameLinks : (page.readFrom path).links = page.links := rfl
    simp only [findingsOf, sameRoute, sameLinks, findingOf?_readFrom]
  have pages : (tree.readFrom path).markdownFiles = tree.markdownFiles.map (·.readFrom path) := by
    rw [ContentTree.markdownFiles, ContentTree.markdownFiles, ContentTree.readFrom, List.filter_map]
    rfl
  simp only [ofSite, findings, tree.routes_readFrom, pages, List.flatMap_map, ofPage]

theorem LinkReport.ofSite_map_readFrom {α : Type} (items : List α) (file : α → ContentFile)
    (path : α → Path) :
    LinkReport.ofSite config { files := items.map fun item => (file item).readFrom (path item) } =
      LinkReport.ofSite config { files := items.map file } := by
  rw [← ofSite_readFrom _ _ ⟨""⟩, ← ofSite_readFrom _ { files := items.map file } ⟨""⟩]
  congr 1
  apply ContentTree.eq_of_files
  simp [ContentTree.readFrom, ContentFile.readFrom]

end Relocation

/-! ## The pages -/

namespace Scaffold

/-- The directory of the pages of a new site. -/
def docsRoot : ContentRoot where
  kind := .doc
  directory := ⟨"docs"⟩

/-- A page of a new site, as a file of the site: it has a title and one link. -/
def titledPage (path route title target : String) (line : Nat) : ContentFile where
  kind := .doc
  sourcePath := ⟨path⟩
  sitePath := ⟨path⟩
  route := some route
  frontmatter := some { title := some title }
  links := [{ target, line }]

/-- The file of the site that the page of a name becomes. -/
def file (name : String) : ContentFile :=
  if name = "intro.md" then
    titledPage "docs/intro.md" "/docs/intro" "Introduction" "getting-started.md" 7
  else
    titledPage "docs/getting-started.md" "/docs/getting-started" "Getting Started" "intro.md" 14

/-- The links of the page that consists of a block of frontmatter and lines behind it. -/
def linksOf (block : String) (lines : List String) : List MarkdownLink :=
  MarkdownLink.extract (Text.trimStart (ofLines lines))
    ((Frontmatter.front block).toList.count '\n' +
      ((ofLines lines).toList.takeWhile Text.isBlank).count '\n')

/-- A page whose frontmatter is a title becomes a file of the site. -/
theorem ofSource_titled (siteDir : Path) {name path route title target block : String} {line : Nat}
    {lines : List String} (nonempty : lines ≠ []) (unmarked : Frontmatter.IsUnmarked block)
    (reads : Frontmatter.ofBlock? (Text.trim block) = some { title := some title })
    (stands : (Path.join ⟨"docs"⟩ (Path.ofNames [name])).collapse = ⟨path⟩)
    (served : Route.ofDoc "/" "docs" (Path.ofNames [name]) (some { title := some title }) = route)
    (linked : linksOf block lines = [{ target, line }]) :
    (Candidate.ofNames siteDir docsRoot [name]).ofSource site
        (ofLines ("---" :: block :: "---" :: lines)) =
      .ok ((titledPage path route title target line).readFrom
        ((docsRoot.path siteDir).join (Path.ofNames [name]))) := by
  have isRoute : (Candidate.ofNames siteDir docsRoot [name]).route site (some { title := some title }) =
      route := served
  have isPath : (Candidate.ofNames siteDir docsRoot [name]).sitePath = ⟨path⟩ := stands
  rw [ofLines_front nonempty, Candidate.ofSource, Frontmatter.split_framed unmarked reads]
  dsimp only
  rw [Candidate.linesBefore_front, ← linksOf, linked, isRoute, isPath]
  rfl

/-- **Both pages of a new site are read as the files that they are meant to be.** -/
theorem ofSource_page (siteDir : Path) : ∀ page ∈ pages,
    (Candidate.ofNames siteDir docsRoot [page.1]).ofSource site page.2 =
      .ok ((file page.1).readFrom ((docsRoot.path siteDir).join (Path.ofNames [page.1]))) := by
  rw [pages, List.forall_mem_cons, List.forall_mem_singleton]
  constructor
  · refine ofSource_titled siteDir (List.cons_ne_nil _ _) (by decide +kernel) (by decide +kernel)
      (by decide +kernel) (by decide +kernel) ?_
    rw [linksOf, MarkdownLink.extract, Text.trimStart, String.toList_ofList, toList_ofLines ?spelled]
    case spelled => repeat' constructor
    decide +kernel
  · refine ofSource_titled siteDir (List.cons_ne_nil _ _) (by decide +kernel) (by decide +kernel)
      (by decide +kernel) (by decide +kernel) ?_
    rw [linksOf, MarkdownLink.extract, Text.trimStart, String.toList_ofList, toList_ofLines ?spelled]
    case spelled => repeat' constructor
    decide +kernel

end Scaffold

/-! ## What a check finds -/

namespace Scaffold

variable {present : String × String → Bool} (readFrom : String × String → Path)

/-- The site that consists of some of the pages, in the order in which they are discovered. -/
def treeOf (present : String × String → Bool) (readFrom : String × String → Path) : ContentTree where
  files := (pages.reverse.filter present).map fun page => (file page.1).readFrom (readFrom page)

/-- With both pages, nothing is broken. -/
theorem report_whole (whole : ∀ page ∈ pages, present page = true) :
    LinkReport.ofSite site (treeOf present readFrom) = {} := by
  have all : pages.reverse.filter present = pages.reverse :=
    List.filter_eq_self.mpr fun page member => whole page (List.mem_reverse.mp member)
  rw [treeOf, LinkReport.ofSite_map_readFrom, all]
  decide +kernel

/-- Without one of the pages, a link of the configuration is broken. -/
theorem report_partial (missing : ¬ ∀ page ∈ pages, present page = true) :
    (LinkReport.ofSite site (treeOf present readFrom)).brokenLinks ≠ [] := by
  rw [treeOf, LinkReport.ofSite_map_readFrom]
  have isReverse : pages.reverse = [("getting-started.md", gettingStarted), ("intro.md", intro)] := rfl
  rw [isReverse, List.filter_cons, List.filter_cons, List.filter_nil]
  rw [pages, List.forall_mem_cons, List.forall_mem_singleton] at missing
  cases first : present ("intro.md", intro) <;>
    cases second : present ("getting-started.md", gettingStarted)
  · decide +kernel
  · decide +kernel
  · decide +kernel
  · exact absurd ⟨first, second⟩ missing

end Scaffold

end Docsite
