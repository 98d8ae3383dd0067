/-
**Publishing more breaks no link.**

A site grows when a published file is added to it, at any position, or when one of its drafts is
given a route. Whatever is then wrong with a link that is not written in that file was wrong with it
before.

* `Publishes`: how the files of a site grow.
* `Publishes.extends`: what a site that grew still serves and still holds.
* `checkLinks_publishes`: the findings beside the new file, in order, are among those of before.
-/

import Mathlib.Data.List.Flatten
import Docsite.Proofs.Check.Verdict

namespace Docsite

/-! ## Growing sites -/

/-- The second list of files is the first one with one more published file, or with a route for one
of its drafts; the number is the position of that file in the second list. -/
inductive Publishes : List ContentFile → List ContentFile → Nat → Prop
  | insert (before after : List ContentFile) {added : ContentFile} :
      added.route.isSome → Publishes (before ++ after) (before ++ added :: after) before.length
  | release (before after : List ContentFile) {draft : ContentFile} {route : String} :
      draft.route = none →
      Publishes (before ++ draft :: after) (before ++ { draft with route := some route } :: after)
        before.length

/-- **What a site keeps when it grows.** It serves and holds what it did, and a draft that it finds
at a path was found there before. -/
structure Extends (smaller larger : ContentTree) : Prop where
  serves {path : String} : smaller.Serves path → larger.Serves path
  holds {path : Path} : smaller.Holds path → larger.Holds path
  draftAt {path : Path} {file : ContentFile} :
    larger.FileAt path file → file.route = none → smaller.FileAt path file

/-- The file at a path, looked for behind a file, at that file, and before it. -/
theorem ContentTree.source?_of_files {tree : ContentTree} {before after : List ContentFile}
    {here : ContentFile} (shape : tree.files = before ++ here :: after) (path : Path) :
    tree.source? path =
      (after.reverse.find? (·.sitePath == path.collapse)).or
        (if here.sitePath = path.collapse then some here
          else before.reverse.find? (·.sitePath == path.collapse)) := by
  rw [ContentTree.source?_eq_find?, shape, List.reverse_append, List.reverse_cons, List.append_assoc,
    List.find?_append, List.find?_append]
  by_cases isHere : here.sitePath = path.collapse
  · simp [isHere]
  · simp [isHere]

namespace Publishes

variable {files more : List ContentFile} {place : Nat}

/-- **A site that grew has one file at the place where it grew, and the others as before.** -/
theorem shape (published : Publishes files more place) :
    ∃ before added after, more = before ++ added :: after ∧ place = before.length ∧
      (before ++ after).Sublist files := by
  cases published with
  | insert before after => exact ⟨before, _, after, rfl, rfl, List.Sublist.refl _⟩
  | release before after =>
    exact ⟨before, _, after, rfl, rfl, (List.sublist_cons_self _ after).append_left before⟩

/-- Every file of the smaller site is found in the larger one, as it was or, where it was a draft,
with a route. -/
theorem exists_mem (published : Publishes files more place) {file : ContentFile}
    (member : file ∈ files) :
    ∃ grown ∈ more, grown.sitePath = file.sitePath ∧
      (file.route.isSome → grown.route = file.route) := by
  cases published with
  | insert before after =>
    refine ⟨file, ?_, rfl, fun _ => rfl⟩
    rcases List.mem_append.mp member with member | member
    · exact List.mem_append_left _ member
    · exact List.mem_append_right before (List.mem_cons_of_mem _ member)
  | release before after draft =>
    rcases List.mem_append.mp member with member | member
    · exact ⟨file, List.mem_append_left _ member, rfl, fun _ => rfl⟩
    rcases List.mem_cons.mp member with rfl | member
    · refine ⟨_, List.mem_append_right before List.mem_cons_self, rfl, fun isSome => ?_⟩
      rw [draft] at isSome
      cases isSome
    · exact ⟨file, List.mem_append_right before (List.mem_cons_of_mem _ member), rfl,
        fun _ => rfl⟩

/-- A draft that is found at a path of the larger site was found there before: the file that made the
site grow is no draft. -/
theorem source?_draft (published : Publishes files more place) {smaller larger : ContentTree}
    (before : smaller.files = files) (now : larger.files = more) {path : Path} {file : ContentFile}
    (found : larger.source? path = some file) (draft : file.route = none) :
    smaller.source? path = some file := by
  cases published with
  | insert front back isPublished =>
    rw [ContentTree.source?_of_files now] at found
    rw [ContentTree.source?_eq_find?, before, List.reverse_append, List.find?_append]
    generalize back.reverse.find? (·.sitePath == path.collapse) = later at found ⊢
    cases later with
    | some other =>
      rw [Option.some_or] at found ⊢
      exact found
    | none =>
      rw [Option.none_or] at found ⊢
      split at found
      · cases found
        rw [draft] at isPublished
        cases isPublished
      · exact found
  | release front back =>
    rw [ContentTree.source?_of_files now] at found
    rw [ContentTree.source?_of_files before]
    generalize back.reverse.find? (·.sitePath == path.collapse) = later at found ⊢
    cases later with
    | some other =>
      rw [Option.some_or] at found ⊢
      exact found
    | none =>
      rw [Option.none_or] at found ⊢
      split at found
      · cases found
        cases draft
      · next elsewhere =>
        rw [if_neg elsewhere]
        exact found

/-- **A site that grew extends the site that it was.** -/
theorem toExtends {smaller larger : ContentTree}
    (published : Publishes smaller.files larger.files place) : Extends smaller larger where
  serves := by
    rintro path ⟨file, member, route, isServed, same⟩
    obtain ⟨grown, grownMember, _, keepsRoute⟩ := published.exists_mem member
    have kept := keepsRoute (by rw [isServed]; rfl)
    exact ⟨grown, grownMember, route, kept.trans isServed, same⟩
  holds := by
    rintro path ⟨file, member, isHere⟩
    obtain ⟨grown, grownMember, samePath, _⟩ := published.exists_mem member
    exact ⟨grown, grownMember, samePath.trans isHere⟩
  draftAt := by
    intro path file found draft
    exact ContentTree.source?_eq_some.mp
      (published.source?_draft rfl rfl (ContentTree.source?_eq_some.mpr found) draft)

end Publishes

/-! ## Verdicts -/

section Verdicts

variable {config : SiteConfig} {smaller larger : ContentTree}

/-- What is wrong with a link of the configuration was wrong with it before. -/
theorem EntryVerdict.before (extension : Extends smaller larger) {link : ConfigLink}
    {broken : BrokenLink} (given : EntryVerdict config larger link (some broken)) :
    EntryVerdict config smaller link (some broken) := by
  cases given with
  | missing missing => exact .missing fun served => missing (extension.serves served)

/-- What is wrong with a link of a page was wrong with it before. -/
theorem LinkVerdict.before (extension : Extends smaller larger) {place : PublishedLink}
    {finding : Finding} (given : LinkVerdict config larger place (some finding)) :
    LinkVerdict config smaller place (some finding) := by
  cases given with
  | unknownFile onSite reference nowhere =>
    exact .unknownFile onSite reference fun turn path isPlace held =>
      nowhere turn path isPlace (extension.holds held)
  | draft onSite reference refers draft =>
    obtain ⟨turn, path, isPlace, found, first⟩ := refers
    refine .draft onSite reference ⟨turn, path, isPlace, extension.draftAt found draft, ?_⟩ draft
    intro earlier less other otherPlace held
    exact first earlier less other otherPlace (extension.holds held)
  | missing onSite path leads missing =>
    exact .missing onSite path leads fun served => missing (extension.serves served)

theorem findingsOf_sublist (extension : Extends smaller larger) (page : ContentFile) :
    (findingsOf config larger page).Sublist (findingsOf config smaller page) := by
  unfold findingsOf
  cases page.route with
  | none => exact List.Sublist.slnil
  | some route =>
    refine filterMap_sublist_filterMap (fun link finding found => ?_) page.links
    have verdict : LinkVerdict config larger ⟨page, route, link⟩ (some finding) :=
      (linkVerdict_iff _ _).mpr found
    exact (verdict.before extension).findingOf?_eq

theorem brokenConfigLinks_sublist (extension : Extends smaller larger) :
    (config.internalLinks.filterMap (brokenConfigLink? config larger.routes)).Sublist
      (config.internalLinks.filterMap (brokenConfigLink? config smaller.routes)) := by
  refine filterMap_sublist_filterMap (fun link broken found => ?_) _
  exact (entryVerdict_iff _ _).mp
    (EntryVerdict.before extension ((entryVerdict_iff _ _).mpr found))

end Verdicts

/-! ## Reports -/

/-- The findings in some pages that stand at positions from `start` on, each with the position. -/
def locatedFrom (config : SiteConfig) (tree : ContentTree) (start : Nat)
    (files : List ContentFile) : List (Option Nat × Finding) :=
  (files.zipIdx start).flatMap fun (file, position) =>
    if file.isMarkdown then (findingsOf config tree file).map (some position, ·) else []

/-- The findings of a check, each with the position of the file that it is written in; those of the
configuration are written in no file. -/
def locatedFindings (config : SiteConfig) (tree : ContentTree) : List (Option Nat × Finding) :=
  (config.internalLinks.filterMap (brokenConfigLink? config tree.routes)).map
      (fun broken => (none, .link broken)) ++
    locatedFrom config tree 0 tree.files

/-- The findings of a check that are not written in the file at a position. -/
def findingsBeside (config : SiteConfig) (tree : ContentTree) (position : Nat) : List Finding :=
  ((locatedFindings config tree).filter (·.1 != some position)).map Prod.snd

section Positions

variable {config : SiteConfig} {tree : ContentTree}

theorem locatedFrom_append (start : Nat) (files more : List ContentFile) :
    locatedFrom config tree start (files ++ more) =
      locatedFrom config tree start files ++
        locatedFrom config tree (start + files.length) more := by
  simp only [locatedFrom, List.zipIdx_append, List.flatMap_append]

theorem locatedFrom_cons (start : Nat) (file : ContentFile) (files : List ContentFile) :
    locatedFrom config tree start (file :: files) =
      (if file.isMarkdown then (findingsOf config tree file).map (some start, ·) else []) ++
        locatedFrom config tree (start + 1) files := by
  simp only [locatedFrom, List.zipIdx_cons, List.flatMap_cons]

/-- Without their positions, the findings in some files are those in the pages among them. -/
theorem locatedFrom_findings (start : Nat) (files : List ContentFile) :
    (locatedFrom config tree start files).map Prod.snd =
      (files.filter ContentFile.isMarkdown).flatMap (findingsOf config tree) := by
  induction files generalizing start with
  | nil => rfl
  | cons file files ih =>
    rw [locatedFrom_cons, List.map_append, ih (start + 1), List.filter_cons]
    split
    · rw [List.flatMap_cons, List.map_map]
      congr 1
      exact List.map_id _
    · rfl

/-- A finding in some files has the position of one of them. -/
theorem locatedFrom_position {start : Nat} {files : List ContentFile}
    {located : Option Nat × Finding} (member : located ∈ locatedFrom config tree start files) :
    ∃ position, located.1 = some position ∧ start ≤ position ∧
      position < start + files.length := by
  obtain ⟨⟨file, position⟩, inFiles, isHere⟩ := List.mem_flatMap.mp member
  have bounds := List.mem_zipIdx inFiles
  refine ⟨position, ?_, bounds.1, bounds.2.1⟩
  dsimp only at isHere
  split at isHere
  · obtain ⟨finding, -, rfl⟩ := List.mem_map.mp isHere
    rfl
  · cases isHere

/-- Files that do not reach a position have no finding there. -/
theorem filter_locatedFrom {start position : Nat} {files : List ContentFile}
    (away : position < start ∨ start + files.length ≤ position) :
    (locatedFrom config tree start files).filter (·.1 != some position) =
      locatedFrom config tree start files := by
  rw [List.filter_eq_self]
  intro located member
  obtain ⟨other, isThere, low, high⟩ := locatedFrom_position member
  rw [isThere, bne_iff_ne, Ne, Option.some.injEq]
  omega

/-- **Beside the file at a position stand the findings of the configuration and those of the pages
before and after it.** -/
theorem findingsBeside_eq {before after : List ContentFile} {here : ContentFile}
    (shape : tree.files = before ++ here :: after) :
    findingsBeside config tree before.length =
      (config.internalLinks.filterMap (brokenConfigLink? config tree.routes)).map Finding.link ++
        ((before ++ after).filter ContentFile.isMarkdown).flatMap (findingsOf config tree) := by
  have ofConfig (broken : List BrokenLink) :
      (broken.map fun broken => ((none : Option Nat), Finding.link broken)).filter
        (·.1 != some before.length) = broken.map fun broken => (none, .link broken) := by
    rw [List.filter_eq_self]
    intro located member
    obtain ⟨broken, -, rfl⟩ := List.mem_map.mp member
    rfl
  have atHere : ((if here.isMarkdown then
      (findingsOf config tree here).map (some before.length, ·) else []).filter
        (·.1 != some before.length)) = [] := by
    rw [List.filter_eq_nil_iff]
    intro located member
    split at member
    · obtain ⟨finding, -, rfl⟩ := List.mem_map.mp member
      simp
    · cases member
  rw [findingsBeside, locatedFindings, shape, locatedFrom_append, locatedFrom_cons, Nat.zero_add,
    List.filter_append, ofConfig, List.filter_append, List.filter_append, atHere, List.nil_append,
    filter_locatedFrom (.inr (Nat.le_of_eq (Nat.zero_add _))),
    filter_locatedFrom (.inl (Nat.lt_succ_self _)), List.map_append, List.map_append,
    locatedFrom_findings, locatedFrom_findings, List.map_map, List.filter_append,
    List.flatMap_append]
  rfl

/-- The positions aside, the findings are those of a report. -/
theorem locatedFindings_findings :
    (locatedFindings config tree).map Prod.snd = findings config tree := by
  rw [locatedFindings, List.map_append, locatedFrom_findings, List.map_map, findings]
  rfl

end Positions

/-- What a site that grew finds beside the file that made it grow was found before, in that
order. -/
theorem findingsBeside_sublist {config : SiteConfig} {smaller larger : ContentTree} {place : Nat}
    (published : Publishes smaller.files larger.files place) :
    (findingsBeside config larger place).Sublist (findings config smaller) := by
  obtain ⟨before, here, after, shape, rfl, kept⟩ := published.shape
  have extension := published.toExtends
  rw [findingsBeside_eq shape, findings]
  have ofPages : (((before ++ after).filter ContentFile.isMarkdown).flatMap
      (findingsOf config larger)).Sublist
        (((before ++ after).filter ContentFile.isMarkdown).flatMap (findingsOf config smaller)) :=
    List.Sublist.flatMap_right _ fun page _ => findingsOf_sublist extension page
  exact ((brokenConfigLinks_sublist extension).map Finding.link).append
    (ofPages.trans ((kept.filter ContentFile.isMarkdown).flatMap _))

/-- **Publishing more breaks no link.** Each list of a report on the site that grew is that of its
findings, and beside the file that made it grow they are, in order, findings of the report on the
site that it was. -/
theorem checkLinks_publishes {files more : List ContentFile} {place : Nat} (config : SiteConfig)
    (published : Publishes files more place) :
    let smaller : ContentTree := { files }
    let larger : ContentTree := { files := more }
    (checkLinks config larger).value.brokenLinks =
        (locatedFindings config larger).filterMap (·.2.link?) ∧
      (checkLinks config larger).value.brokenReferences =
        (locatedFindings config larger).filterMap (·.2.reference?) ∧
      ((findingsBeside config larger place).filterMap Finding.link?).Sublist
        (checkLinks config smaller).value.brokenLinks ∧
      ((findingsBeside config larger place).filterMap Finding.reference?).Sublist
        (checkLinks config smaller).value.brokenReferences := by
  intro smaller larger
  have beside : (findingsBeside config larger place).Sublist (findings config smaller) :=
    findingsBeside_sublist published
  refine ⟨?_, ?_, beside.filterMap Finding.link?, beside.filterMap Finding.reference?⟩
  · show (findings config larger).filterMap Finding.link? = _
    rw [← locatedFindings_findings, List.filterMap_map]
    rfl
  · show (findings config larger).filterMap Finding.reference? = _
    rw [← locatedFindings_findings, List.filterMap_map]
    rfl

/-- A page that names a draft and a route that is not there, and the draft is given a route. -/
theorem checkLinks_publishes_release :
    let page : ContentFile := {
      kind := .page
      sourcePath := ⟨"src/pages/a.md"⟩
      sitePath := ⟨"src/pages/a.md"⟩
      route := some "/a"
      links := [{ target := "./b.md", line := 1 }, { target := "/c", line := 2 }] }
    let draft : ContentFile := {
      kind := .page
      sourcePath := ⟨"src/pages/b.md"⟩
      sitePath := ⟨"src/pages/b.md"⟩
      route := none }
    let released : ContentFile := { draft with route := some "/b" }
    Publishes [page, draft] [page, released] 1 ∧
      ((findingsBeside .bare { files := [page, released] } 1).filterMap Finding.link?).Sublist
        (checkLinks .bare { files := [page, draft] }).value.brokenLinks ∧
      ((findingsBeside .bare { files := [page, released] } 1).filterMap
        Finding.reference?).Sublist
        (checkLinks .bare { files := [page, draft] }).value.brokenReferences := by
  intro page draft released
  have published : Publishes [page, draft] [page, released] 1 := .release [page] [] rfl
  exact ⟨published, (checkLinks_publishes .bare published).2.2⟩

end Docsite
