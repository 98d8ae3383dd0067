/-
**What a check finds.**

* `BrokenLink`: a link to a route that the site does not serve.
* `BrokenReference`: a link to a Markdown file that the site does not have.
* `LinkReport.enforce`: what follows from the findings under the policies of a site.
-/

import Docsite.Config.Basic
import Docsite.Notice

namespace Docsite

/-! ## Findings -/

/-- Where a link stands. -/
inductive LinkSource where
  /-- In the configuration, at the place that is described. -/
  | config (origin : String)
  | markdown (file : Path) (line : Nat)
  deriving DecidableEq, Repr

/-- The wording of a place. -/
def LinkSource.text : LinkSource → String
  | .config origin => s!"site config {origin}"
  | .markdown file line => s!"{file.text}:{line}"

/-- A link to a route that the site does not serve. -/
structure BrokenLink where
  source : LinkSource
  /-- The target as it is written. -/
  target : String
  /-- What the target leads to. -/
  resolved : String
  deriving DecidableEq, Repr

/-- The wording of a broken link. -/
def BrokenLink.text (link : BrokenLink) : String :=
  if link.target == link.resolved then s!"{link.target} (in {link.source.text})"
  else s!"{link.target} resolved to {link.resolved} (in {link.source.text})"

/-- A link to a Markdown file that the site does not have. -/
structure BrokenReference where
  file : Path
  line : Nat
  target : String
  deriving DecidableEq, Repr

/-- The wording of a broken reference. -/
def BrokenReference.text (reference : BrokenReference) : String :=
  s!"{reference.target} (in {reference.file.text}:{reference.line})"

/-- Everything that a check finds. -/
structure LinkReport where
  brokenLinks : List BrokenLink := []
  brokenReferences : List BrokenReference := []
  deriving DecidableEq, Repr

namespace LinkReport

/-- Whether nothing was found. -/
def isClean (report : LinkReport) : Bool :=
  report.brokenLinks.isEmpty && report.brokenReferences.isEmpty

end LinkReport

/-! ## Enforcement -/

/-- Why a check fails. -/
inductive CheckError where
  | brokenLinks (links : List BrokenLink)
  | brokenReferences (references : List BrokenReference)
  deriving DecidableEq, Repr

namespace CheckError

/-- The wording of a list of findings. -/
def listing (kind : String) (items : List String) : String :=
  s!"Found {items.length} {kind}(s):" ++ String.join (items.map ("\n  - " ++ ·))

/-- The number of findings that an error carries. -/
def count : CheckError → Nat
  | .brokenLinks links => links.length
  | .brokenReferences references => references.length

/-- The wording of an error. -/
def message : CheckError → String
  | .brokenLinks links => listing "broken link" (links.map BrokenLink.text)
  | .brokenReferences references =>
    listing "broken Markdown link" (references.map BrokenReference.text)

end CheckError

/-- How many findings did not make the check fail, by what was done about them. -/
structure Enforcement where
  warned : Nat := 0
  logged : Nat := 0
  ignored : Nat := 0
  deriving DecidableEq, Repr

namespace Enforcement

/-- The findings of both. -/
def add (first second : Enforcement) : Enforcement where
  warned := first.warned + second.warned
  logged := first.logged + second.logged
  ignored := first.ignored + second.ignored

/-- What becomes of findings under a policy, one notice for each where notices are given; nothing if
the check fails. -/
def ofPolicy (policy : LinkPolicy) (kind : String) (items : List String) :
    Logged (Option Enforcement) :=
  match policy with
  | .throw => pure (if items.isEmpty then some {} else none)
  | .warn =>
    { value := some { warned := items.length }, notices := items.map (.offenceWarned kind) }
  | .log =>
    { value := some { logged := items.length }, notices := items.map (.offenceLogged kind) }
  | .ignore => pure (some { ignored := items.length })

end Enforcement

/-- What follows from a report under the policies of a site. References come before links; a fatal
policy carries all findings of its kind. -/
def LinkReport.enforce (report : LinkReport) (config : SiteConfig) :
    Logged (Except CheckError Enforcement) := do
  let references ← Enforcement.ofPolicy config.onBrokenMarkdownLinks "Broken Markdown link"
    (report.brokenReferences.map BrokenReference.text)
  match references with
  | none => return .error (.brokenReferences report.brokenReferences)
  | some first =>
    let links ← Enforcement.ofPolicy config.onBrokenLinks "Broken link"
      (report.brokenLinks.map BrokenLink.text)
    match links with
    | none => return .error (.brokenLinks report.brokenLinks)
    | some second => return .ok (first.add second)

end Docsite
