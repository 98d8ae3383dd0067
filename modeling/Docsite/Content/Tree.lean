/-
**The content of a site.**

* `ContentTree.discover`: every content file below the directories of a site, in order:
  documentation, pages, static files, each directory by directory.
* `Race`: which file is reported where several cannot be used.
* `ContentTree.source?`: the file at a path of the site.
-/

import Docsite.Content.Index
import Docsite.Route.Table

namespace Docsite

/-! ## Races -/

/-- Which error is reported where files are read side by side and several of them cannot be used. The
first to fail is, which may be any of them. -/
structure Race where
  /-- The error that is reported of those in the order of the files: a first one and others. -/
  reported : ContentError → List ContentError → ContentError
  reported_mem : ∀ first others, reported first others ∈ first :: others

namespace Race

/-- The race of files that are read one after the other. -/
def inOrder : Race where
  reported first _ := first
  reported_mem _ _ := List.mem_cons_self

/-- The race in which a given error comes first, if it comes at all. -/
def wonBy (winner : ContentError) : Race where
  reported first others := if winner ∈ first :: others then winner else first
  reported_mem first others := by
    split
    · next among => exact among
    · exact List.mem_cons_self

end Race

/-! ## Files of a site -/

/-- The files of a site, the routes they are served at, and the paths they are found at. -/
structure ContentTree where
  files : List ContentFile
  routes : Route.Table := .ofList (files.filterMap ContentFile.route)
  index : SourceIndex := .ofFiles files
  /-- The routes are those of the files. -/
  routes_eq : routes = .ofList (files.filterMap ContentFile.route) := by rfl
  /-- The index is that of the files. -/
  index_eq : index = .ofFiles files := by rfl

namespace ContentTree

/-- The Markdown pages among the files. -/
def markdownFiles (tree : ContentTree) : List ContentFile :=
  tree.files.filter ContentFile.isMarkdown

/-- The file at a path of the site, however the path is spelled; of several files the last one. -/
def source? (tree : ContentTree) (path : Path) : Option ContentFile :=
  (tree.index.get? path.collapse).bind fun position => tree.files[position]?

/-- What is said about files in addition to routes that are taken already. -/
def noticesOf (taken : Route.Table) : List ContentFile → List Notice
  | [] => []
  | file :: rest =>
    match file.route with
    | none => .draftSkipped file.sitePath :: noticesOf taken rest
    | some route =>
      let (isNew, taken) := taken.insert route
      if isNew then noticesOf taken rest
      else .duplicateRoute route file.sitePath :: noticesOf taken rest

/-- What is said about the files of a site. -/
def notices (tree : ContentTree) : List Notice :=
  noticesOf {} tree.files ++ [.contentDiscovered tree.files.length tree.routes.size]

/-- The errors of the files that cannot be used, in the order of the files. -/
def errors : List (Except ContentError ContentFile) → List ContentError
  | [] => []
  | .error error :: rest => error :: errors rest
  | .ok _ :: rest => errors rest

/-- The content that consists of files, unless some of them cannot be used; then the error of one of
these is reported. -/
def ofLoaded (loaded : List (Except ContentError ContentFile)) (race : Race) :
    Logged (Except ContentError ContentTree) :=
  match errors loaded with
  | first :: others => pure (.error (race.reported first others))
  | [] =>
    let tree : ContentTree := { files := loaded.filterMap Except.toOption }
    { value := .ok tree, notices := tree.notices }

/-- The content of a site. -/
def discover {m : Type → Type} [Monad m] [Storage m] (siteDir : Path) (config : SiteConfig)
    (race : Race := .inOrder) : m (Logged (Except ContentError ContentTree)) := do
  let listings ← (ContentRoot.all config).mapM fun root => do
    return (root, ← Storage.listing? (root.path siteDir))
  let found := Candidate.collect siteDir listings
  let loaded ← found.value.mapM (Candidate.load · config)
  return do
    let _ ← found
    ofLoaded loaded race

end ContentTree

end Docsite
