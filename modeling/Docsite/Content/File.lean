/-
**Content files.**

* `Candidate.collect`: the content files below the directories of a site, before they are read.
* `Candidate.ofSource`: what a Markdown page says about itself.
-/

import Docsite.Config.Basic
import Docsite.Content.Kind
import Docsite.Frontmatter.Reader
import Docsite.Markdown.Link
import Docsite.Notice
import Docsite.Route.Content
import Docsite.Storage.Basic

namespace Docsite

/-! ## Files -/

/-- A file of a site. -/
structure ContentFile where
  kind : ContentKind
  /-- The path of the file as it is read. -/
  sourcePath : Path
  /-- The path of the file below the site directory. -/
  sitePath : Path
  /-- Where the file is served; drafts are not. -/
  route : Option String
  frontmatter : Option Frontmatter := none
  links : List MarkdownLink := []
  deriving DecidableEq, Repr

/-- Whether a file is a Markdown page. -/
def ContentFile.isMarkdown (file : ContentFile) : Bool :=
  file.kind != .static && ContentKind.isMarkdownExtension file.sitePath.extension

/-- Why the content of a site cannot be used. -/
inductive ContentError where
  | unreadable (path : Path) (cause : FileError)
  | badFrontmatter (path : Path) (cause : FrontmatterError)
  deriving DecidableEq, Repr

namespace ContentError

/-- What lies behind an error, in its own words. -/
def cause : ContentError → String
  | .unreadable _ cause => cause.message
  | .badFrontmatter _ cause => cause.message

/-- The wording of an error. -/
def message : ContentError → String
  | .unreadable path cause => s!"Failed to read {path.text}: " ++ cause.message
  | .badFrontmatter path cause => s!"Frontmatter error in {path.text}: " ++ cause.message

end ContentError

/-! ## Directories -/

/-- A directory that holds content. -/
structure ContentRoot where
  kind : ContentKind
  /-- The path below the site directory, as it is configured. -/
  directory : Path
  deriving DecidableEq, Repr

namespace ContentRoot

/-- The directories that hold the content of a site: documentation, pages, static files. -/
def all (config : SiteConfig) : List ContentRoot :=
  { kind := .doc, directory := ⟨config.docs.path⟩ } ::
    { kind := .page, directory := ⟨config.pagesPath⟩ } ::
    config.staticDirectories.map fun directory => { kind := .static, directory := ⟨directory⟩ }

/-- The path of a directory as it is read. -/
def path (root : ContentRoot) (siteDir : Path) : Path :=
  siteDir.join root.directory

end ContentRoot

/-! ## Candidates -/

/-- A content file that has not been read yet. -/
structure Candidate where
  kind : ContentKind
  sourcePath : Path
  sitePath : Path
  /-- The path below the directory of its kind. -/
  relative : Path
  deriving DecidableEq, Repr

namespace Candidate

/-- The file that names lead to below a directory. -/
def ofNames (siteDir : Path) (root : ContentRoot) (names : List String) : Candidate where
  kind := root.kind
  sourcePath := (root.path siteDir).join (Path.ofNames names)
  sitePath := (root.directory.join (Path.ofNames names)).collapse
  relative := Path.ofNames names

/-- The content files below one directory. -/
def inRoot (siteDir : Path) (root : ContentRoot) (listing : Listing) : List Candidate :=
  (listing.files.map (ofNames siteDir root)).filter fun file => root.kind.accepts file.relative

/-- The content files below some directories; a directory that is not there holds none. -/
def collect (siteDir : Path) : List (ContentRoot × Option Listing) → Logged (List Candidate)
  | [] => pure []
  | (root, some listing) :: rest => do
    return inRoot siteDir root listing ++ (← collect siteDir rest)
  | (root, none) :: rest => do
    Logged.give (.directoryMissing root.kind (root.path siteDir))
    collect siteDir rest

/-- Whether a file has to be read to know its route and its links. -/
def isMarkdown (file : Candidate) : Bool :=
  file.kind != .static && ContentKind.isMarkdownExtension file.relative.extension

/-- The route of a file, by what it says about itself. -/
def route (file : Candidate) (config : SiteConfig) (frontmatter : Option Frontmatter) : String :=
  match file.kind with
  | .doc => Route.ofDoc config.baseUrl config.docs.routeBasePath file.relative frontmatter
  | .page => Route.ofPage config.baseUrl file.relative frontmatter
  | .static => Route.ofStatic config.baseUrl file.relative

/-- A file that says nothing about itself. -/
def unread (file : Candidate) (config : SiteConfig) : ContentFile where
  kind := file.kind
  sourcePath := file.sourcePath
  sitePath := file.sitePath
  route := some (file.route config none)

/-- How many line feeds of a page stand before its body. -/
def linesBefore (source body : String) : Nat :=
  source.toList.count '\n' - body.toList.count '\n'

/-- A Markdown page, read from its source. -/
def ofSource (file : Candidate) (config : SiteConfig) (source : String) :
    Except ContentError ContentFile :=
  match Frontmatter.split source with
  | .error cause => .error (.badFrontmatter file.sourcePath cause)
  | .ok (frontmatter, body) => .ok {
      kind := file.kind
      sourcePath := file.sourcePath
      sitePath := file.sitePath
      route :=
        if (frontmatter.map Frontmatter.draft).getD false then none
        else some (file.route config frontmatter)
      frontmatter
      links := MarkdownLink.extract body (linesBefore source body) }

/-- A file, with what reading it gave. -/
def load {m : Type → Type} [Monad m] [Storage m] (file : Candidate) (config : SiteConfig) :
    m (Except ContentError ContentFile) := do
  if file.isMarkdown then
    match ← Storage.readText file.sourcePath with
    | .ok source => return file.ofSource config source
    | .error cause => return .error (.unreadable file.sourcePath cause)
  else return .ok (file.unread config)

end Candidate

end Docsite
