/-
**Checking links.**

Every link of the configuration and of the published Markdown pages must lead to something that the
site serves. A link to a Markdown file must name a file of the site; any other link must resolve to
a route.

* `LinkReport.ofSite`: the report on a site.
-/

import Docsite.Check.Report
import Docsite.Config.Links
import Docsite.Content.Tree
import Docsite.Text.Percent

namespace Docsite

/-! ## Links of the configuration -/

/-- What is wrong with a link of the configuration. -/
def brokenConfigLink? (config : SiteConfig) (routes : Route.Table) (link : ConfigLink) :
    Option BrokenLink :=
  let resolved := config.resolvePath link.target
  if routes.contains resolved then none
  else some { source := .config link.origin.text, target := link.target, resolved }

/-! ## Links of pages -/

/-- What is wrong with a link. -/
inductive Finding where
  | link (broken : BrokenLink)
  | reference (broken : BrokenReference)
  deriving DecidableEq, Repr

namespace Finding

/-- The broken link that was found. -/
def link? : Finding → Option BrokenLink
  | .link broken => some broken
  | .reference _ => none

/-- The broken reference that was found. -/
def reference? : Finding → Option BrokenReference
  | .link _ => none
  | .reference broken => some broken

end Finding

/-- The paths of the site that a file reference on a page may stand for, in the order in which they
are tried: below the directory of the page unless it starts at the root, below the documentation
directory, and below the site directory unless it starts at the page. -/
def referenceCandidates (config : SiteConfig) (page : Path) (reference : String) : List Path :=
  let relative : Path := ⟨Text.trimStartOf '/' reference⟩
  let rooted := Text.startsWith "/" reference
  let explicit := Text.startsWith "./" reference || Text.startsWith "../" reference
  (if rooted then [] else [((page.parent?).getD ⟨""⟩).join relative]) ++
    [Path.join ⟨config.docs.path⟩ relative] ++
    if explicit then [] else [relative]

/-- The file that a file reference on a page stands for. -/
def referencedFile? (config : SiteConfig) (tree : ContentTree) (page : Path) (reference : String) :
    Option ContentFile :=
  (referenceCandidates config page reference).findSome? tree.source?

/-- What a link on a page served at `route` leads to. Where the site serves pages as directories, a
relative path starts inside the page. -/
def resolveOnPage (config : SiteConfig) (route path : String) : String :=
  if Text.startsWith "/" path then config.resolvePath path
  else if config.trailingSlash == some true then
    Route.resolve (Text.trimEndOf '/' route ++ "/") path
  else Route.resolve route path

/-- Whether a link leads to another place of the site. -/
def staysOnSite (link : MarkdownLink) : Bool :=
  link.path != "" && !link.isFragmentOnly && !isExternal link.target

/-- What is wrong with a link on a page served at `route`. -/
def findingOf? (config : SiteConfig) (tree : ContentTree) (page : ContentFile) (route : String)
    (link : MarkdownLink) : Option Finding :=
  let source := LinkSource.markdown page.sitePath link.line
  if !staysOnSite link then none
  else if link.isFileReference then
    match referencedFile? config tree page.sitePath (Text.Percent.decode link.path) with
    | none => some (.reference { file := page.sitePath, line := link.line, target := link.target })
    | some file =>
      if file.route.isSome then none
      else some (.link { source, target := link.target, resolved := file.sitePath.text })
  else
    let resolved := resolveOnPage config route link.path
    if tree.routes.contains resolved then none
    else some (.link { source, target := link.target, resolved })

/-- What is wrong with the links of a page; the links of a draft do not count. -/
def findingsOf (config : SiteConfig) (tree : ContentTree) (page : ContentFile) : List Finding :=
  match page.route with
  | none => []
  | some route => page.links.filterMap (findingOf? config tree page route)

/-! ## Reports -/

/-- What is wrong with the links of a site, those of the configuration first. -/
def findings (config : SiteConfig) (tree : ContentTree) : List Finding :=
  (config.internalLinks.filterMap (brokenConfigLink? config tree.routes)).map Finding.link ++
    tree.markdownFiles.flatMap (findingsOf config tree)

/-- The report on a site. -/
def LinkReport.ofSite (config : SiteConfig) (tree : ContentTree) : LinkReport where
  brokenLinks := (findings config tree).filterMap Finding.link?
  brokenReferences := (findings config tree).filterMap Finding.reference?

/-- The report on a site, with a notice about its extent. -/
def checkLinks (config : SiteConfig) (tree : ContentTree) : Logged LinkReport :=
  let report := LinkReport.ofSite config tree
  { value := report
    notices := [.linksChecked tree.routes.size report.brokenLinks.length
      report.brokenReferences.length] }

end Docsite
