/-
**Relative references.**

A reference to a Markdown file can be written as the relative path from the directory of the page to the
file, each step percent-encoded. Whatever characters the names hold, such a reference is taken for a
reference to a file, and it is looked for beside the page and found there.

* `RelativeTarget`: the targets that are written in this way.
* `refersTo_relative`: such a target stands for the file.
* `checkLinks_relativeTarget`: it is reported as broken only where the file is a draft.
-/

import Docsite.Proofs.Check.ServedRoutes
import Docsite.Proofs.Content.Sources
import Docsite.Proofs.Path.Relative
import Docsite.Proofs.Route.Suffixes
import Docsite.Proofs.Text.Encoded

namespace Docsite

open Text.Percent (Spells)

/-! ## Writing a reference -/

/-- The characters that are not encoded. -/
def isUnreserved (c : Char) : Bool :=
  c.isAlphanum || c == '-' || c == '_' || c == '.' || c == '~'

/-- A text is a step of a path, percent-encoded. -/
def WritesStep (step text : String) : Prop :=
  Spells isUnreserved step.toList text.toList

/-- A target is the relative path from the directory of a page to a file: as many `..` as lead above the
directories that the file is not in, then the steps down to the file. A query or a fragment may
follow. -/
inductive RelativeTarget (page file : Path) : String → Prop
  | intro {common above below written : List String} {pageName fileName tail : String} :
      page.names = common ++ above ++ [pageName] → file.names = common ++ (below ++ [fileName]) →
      List.Forall₂ WritesStep (Path.relativeSteps above (below ++ [fileName])) written →
      (∀ c ∈ tail.toList.head?, c = '?' ∨ c = '#') →
      RelativeTarget page file (Text.joinWith "/" written ++ tail)

/-- The characters of a written path that stand for themselves. -/
def isPathChar (c : Char) : Bool :=
  isUnreserved c || c == '/'

section Written

variable {steps written : List String} {path : String}

/-- Steps that are written between slashes spell the path through them. -/
theorem spells_joinWith (areSteps : ∀ step ∈ steps, Path.IsStep step)
    (writes : List.Forall₂ WritesStep steps written) :
    Spells isPathChar (Path.ofNames steps).text.toList (Text.joinWith "/" written).toList := by
  rw [Path.ofNames, Path.toList_joinWith_slash, Path.toList_joinWith_slash]
  have alone {step text : String} (isStep : Path.IsStep step) (writes : WritesStep step text) :
      Spells isPathChar step.toList text.toList := by
    refine writes.mono fun c member => ?_
    have noSlash : (c == '/') = false :=
      beq_eq_false_iff_ne.mpr fun isSlash => isStep.noSlash (isSlash ▸ member)
    rw [isPathChar, noSlash, Bool.or_false]
  have slash : Spells isPathChar ['/'] ['/'] := .kept (by decide) .nil
  induction writes with
  | nil => exact .nil
  | @cons step text steps written first others ih =>
    have isFirst := alone (areSteps step List.mem_cons_self) first
    have rest := ih fun other member => areSteps other (List.mem_cons_of_mem step member)
    cases others with
    | nil => simpa using isFirst
    | cons second others =>
      rw [List.map_cons, List.map_cons, List.map_cons, List.map_cons, List.intercalate_cons_cons,
        List.intercalate_cons_cons]
      exact (isFirst.append slash).append rest

variable {spelled : List Char}

/-- A written path holds no character that must be encoded and is neither the mark nor a digit. -/
theorem notMem_of_spells (spells : Spells isPathChar spelled path.toList) {c : Char}
    (coded : isPathChar c = false) (noMark : c ≠ '%') (noDigit : Text.Numeral.digit? c = none) :
    c ∉ path.toList := by
  intro member
  rcases spells.mem member with kept | mark | ⟨value, digit⟩
  · rw [coded] at kept
    cases kept
  · exact noMark mark
  · rw [noDigit] at digit
    cases digit

/-- A written path is the path of the target. -/
theorem cutSuffixes_written (spells : Spells isPathChar spelled path.toList) {tail : String}
    (isTail : ∀ c ∈ tail.toList.head?, c = '?' ∨ c = '#') :
    Route.cutSuffixes (path ++ tail) = path := by
  have noEnd : ∀ c ∈ path.toList, Url.endsPath c = false := by
    intro c member
    have notQuery : c ≠ '?' := by
      rintro rfl
      exact notMem_of_spells spells (by decide) (by decide) (by decide) member
    have notFragment : c ≠ '#' := by
      rintro rfl
      exact notMem_of_spells spells (by decide) (by decide) (by decide) member
    simp [Url.endsPath, notQuery, notFragment]
  rw [Route.cutSuffixes_append noEnd, Route.cutSuffixes_tail isTail, String.append_empty]

end Written

/-! ## Staying on the site -/

/-- A text whose first colon stands behind a query or a fragment has no scheme. -/
theorem hasScheme_append {front back : List Char} (noColon : ':' ∉ front)
    (isTail : ∀ c ∈ back.head?, c = '?' ∨ c = '#') : hasScheme (front ++ back) = false := by
  have notNext : ((front ++ back).dropWhile isSchemeChar).head? ≠ some ':' := by
    induction front with
    | nil =>
      cases back with
      | nil => exact nofun
      | cons c rest =>
        rcases isTail c rfl with rfl | rfl <;> exact nofun
    | cons c front ih =>
      rw [List.mem_cons, not_or] at noColon
      rw [List.cons_append, List.dropWhile_cons]
      split
      · exact ih noColon.2
      · exact fun same => noColon.1 (Option.some.inj same).symm
  cases split : front ++ back with
  | nil => rfl
  | cons first rest =>
    rw [hasScheme, Bool.and_eq_false_iff]
    by_cases opens : isSchemeChar first = true
    · right
      rw [split, List.dropWhile_cons, if_pos opens] at notNext
      exact beq_eq_false_iff_ne.mpr notNext
    · left
      rw [isSchemeChar, Bool.or_eq_true, Bool.or_eq_true, Bool.or_eq_true, not_or, not_or,
        not_or, Char.isAlphanum, Bool.or_eq_true, not_or] at opens
      exact Bool.eq_false_iff.mpr opens.1.1.1.1

/-- **A relative path leads to another place of the site**, with a query or a fragment behind it or
without. -/
theorem not_staysAside_relative {path tail : String} {link : MarkdownLink}
    (target : link.target = path ++ tail) (pathOf : link.path = path) (named : path ≠ "")
    (noSlash : path.toList.head? ≠ some '/') (noMark : path.toList.head? ≠ some '#')
    (noColon : ':' ∉ path.toList) (isTail : ∀ c ∈ tail.toList.head?, c = '?' ∨ c = '#') :
    ¬ link.StaysAside := by
  have first : link.target.toList.head? = path.toList.head? := by
    rw [target, String.toList_append]
    exact List.head?_append_of_ne_nil _ fun nothing => named (String.toList_eq_nil_iff.mp nothing)
  rintro (nothing | fragment | external)
  · exact named (pathOf.symm.trans nothing)
  · exact noMark (first.symm.trans fragment)
  · rw [isExternal, Bool.or_eq_true] at external
    rcases external with slashes | scheme
    · obtain ⟨rest, spelled⟩ := List.isPrefixOf_iff_prefix.mp slashes
      exact noSlash (first.symm.trans (by rw [← spelled]; rfl))
    · rw [target, String.toList_append, hasScheme_append noColon isTail] at scheme
      cases scheme

/-- A written path is such a path. -/
theorem not_staysAside_written {steps : List String} {path tail : String} {link : MarkdownLink}
    (areSteps : ∀ step ∈ steps, Path.IsStep step)
    (spells : Spells isPathChar (Path.ofNames steps).text.toList path.toList)
    (isTail : ∀ c ∈ tail.toList.head?, c = '?' ∨ c = '#') (named : path ≠ "")
    (target : link.target = path ++ tail) : ¬ link.StaysAside := by
  have pathOf : link.path = path := by
    rw [MarkdownLink.path, target, cutSuffixes_written spells isTail]
  have noSlash : path.toList.head? ≠ some '/' := fun starts =>
    Path.head?_ofSteps areSteps (spells.head?_eq starts (by decide))
  have noMark : path.toList.head? ≠ some '#' := fun starts =>
    notMem_of_spells spells (by decide) (by decide) (by decide) (List.mem_of_head? starts)
  have noColon : ':' ∉ path.toList := notMem_of_spells spells (by decide) (by decide) (by decide)
  exact not_staysAside_relative target pathOf named noSlash noMark noColon isTail

/-! ## Finding the file -/

section Reference

variable {config : SiteConfig} {tree : ContentTree} {page file : Path} {found : ContentFile}
  {common above below : List String} {pageName : String}

/-- **A relative path leads from the page to the file**: beside the page, it is the path of the file. -/
theorem collapse_besidePage (areNames : ∀ name ∈ common ++ above ++ [pageName], Path.IsName name)
    (areBelow : ∀ name ∈ below, Path.IsName name) :
    ((((Path.ofNames (common ++ above ++ [pageName])).parent?).getD ⟨""⟩).join
      ⟨Text.trimStartOf '/' (Path.ofNames (Path.relativeSteps above below)).text⟩).collapse =
        Path.ofNames (common ++ below) := by
  have areSteps : ∀ step ∈ Path.relativeSteps above below, Path.IsStep step :=
    Path.isStep_relativeSteps areBelow
  have noSlash := Path.head?_ofSteps areSteps
  have same : Text.trimStartOf '/' (Path.ofNames (Path.relativeSteps above below)).text =
      (Path.ofNames (Path.relativeSteps above below)).text := by
    rw [Text.trimStartOf, Text.dropWhile_eq_self, String.ofList_toList]
    intro c isHead
    exact beq_eq_false_iff_ne.mpr fun isSlash => noSlash (isSlash ▸ isHead)
  rw [Path.parent?_ofNames areNames, Option.getD_some, same]
  exact Path.collapse_join_relative
    (fun name member => areNames name (List.mem_append_left _ member)) areBelow

/-- **A relative target stands for the file**: it is a reference to a file, and it refers to the file at
the path that it is written for. -/
theorem refersTo_relative {link : MarkdownLink} {name : String}
    (pageResolved : page.collapse = page) (fileResolved : file.collapse = file)
    (named : file.fileName? = some name) (markdown : Route.NamesMarkdown name)
    (written : RelativeTarget page file link.target) (isFound : tree.FileAt file found) :
    ¬ link.StaysAside ∧ link.IsReference ∧
      RefersTo config tree page (Text.Percent.decode link.path) found := by
  obtain ⟨pageIs, pageNames⟩ := Path.eq_ofNames_of_collapse pageResolved
  obtain ⟨fileIs, fileNames⟩ := Path.eq_ofNames_of_collapse fileResolved
  generalize targetIs : link.target = target at written
  obtain @⟨common, above, below, texts, pageName, fileName, tail, pageSteps, fileSteps, writes,
    isTail⟩ := written
  rw [pageSteps] at pageIs pageNames
  rw [fileSteps] at fileIs fileNames
  have areBelow : ∀ other ∈ below ++ [fileName], Path.IsName other := fun other member =>
    fileNames other (List.mem_append_right _ member)
  have areSteps : ∀ step ∈ Path.relativeSteps above (below ++ [fileName]), Path.IsStep step :=
    Path.isStep_relativeSteps areBelow
  have spells := spells_joinWith areSteps writes
  have pathIs : link.path = Text.joinWith "/" texts := by
    rw [MarkdownLink.path, targetIs, cutSuffixes_written spells isTail]
  have isName : name = fileName := by
    rw [fileIs, Path.fileName?_ofNames fileNames, ← List.append_assoc, List.getLast?_concat] at named
    exact (Option.some.inj named).symm
  have ends : name.toList <:+
      (Path.ofNames (Path.relativeSteps above (below ++ [fileName]))).text.toList := by
    rw [isName, Path.relativeSteps, ← List.append_assoc]
    exact Path.suffix_ofNames _ fileName
  have isReference : link.IsReference := by
    rw [MarkdownLink.IsReference, pathIs]
    exact markdown.imp
      (fun ending => spells.suffix (ending.trans ends) (List.all_eq_true.mp rfl))
      fun ending => spells.suffix (ending.trans ends) (List.all_eq_true.mp rfl)
  have nonempty : Text.joinWith "/" texts ≠ "" := by
    intro nothing
    rw [MarkdownLink.IsReference, pathIs, nothing] at isReference
    rcases isReference with ending | ending <;> cases List.suffix_nil.mp ending
  have decoded : Text.Percent.decode link.path =
      (Path.ofNames (Path.relativeSteps above (below ++ [fileName]))).text := by
    have given := spells.decode (by decide)
    rw [String.ofList_toList, String.ofList_toList] at given
    rw [pathIs, given]
  refine ⟨not_staysAside_written areSteps spells isTail nonempty targetIs, isReference, 0, _,
    .besidePage ?_, ?_, fun earlier less => absurd less (Nat.not_lt_zero earlier)⟩
  · rw [decoded]
    exact fun starts => Path.head?_ofSteps areSteps (List.singleton_prefix_iff_head?_eq_some.mp starts)
  · have place := collapse_besidePage pageNames areBelow
    rw [decoded, pageIs, ContentTree.FileAt, place, ← fileIs]
    rwa [ContentTree.FileAt, fileResolved] at isFound

end Reference

/-! ## Reports -/

section Reports

variable {config : SiteConfig} {tree : ContentTree} {place : PublishedLink}

/-- A link of a published page stands on a file of the site. -/
theorem mem_files_of_publishedLinks (published : place ∈ tree.publishedLinks) :
    place.page ∈ tree.files := by
  obtain ⟨page, isPage, member⟩ := List.mem_flatMap.mp published
  obtain ⟨route, -, member⟩ := List.mem_flatMap.mp member
  obtain ⟨link, -, rfl⟩ := List.mem_map.mp member
  exact List.mem_of_mem_filter isPage

/-- **A relative target has the verdict of the file that it stands for.** -/
theorem linkVerdict_relative {file : Path} {name : String} {found : ContentFile}
    (pageResolved : place.page.sitePath.collapse = place.page.sitePath)
    (fileResolved : file.collapse = file) (named : file.fileName? = some name)
    (markdown : Route.NamesMarkdown name)
    (written : RelativeTarget place.page.sitePath file place.link.target)
    (isFound : tree.FileAt file found) :
    (∀ route, found.route = some route → LinkVerdict config tree place none) ∧
      (found.route = none → LinkVerdict config tree place (some (.link {
        source := .markdown place.page.sitePath place.link.line
        target := place.link.target
        resolved := found.sitePath.text }))) := by
  obtain ⟨onSite, isReference, refers⟩ :=
    refersTo_relative pageResolved fileResolved named markdown written isFound
  exact ⟨fun route served => .file onSite isReference refers served,
    fun draft => .draft onSite isReference refers draft⟩

/-- **A correct relative reference is found.** A link on a published page, whose target is the relative
path from the directory of the page to a Markdown file of the site, stands for the file that the site
holds at that path. Nothing is wrong with it if that file is published. It is never reported as a broken
reference, and it is reported as a broken link only if that file is a draft. -/
theorem checkLinks_relativeTarget {disk : Disk} {siteDir : Path} {file : ContentFile} {name : String}
    (discovered : ContentTree.DiscoveredOn disk siteDir config tree)
    (published : place ∈ tree.publishedLinks) (member : file ∈ tree.files)
    (named : file.sitePath.fileName? = some name) (markdown : Route.NamesMarkdown name)
    (written : RelativeTarget place.page.sitePath file.sitePath place.link.target) :
    ∃ found, tree.FileAt file.sitePath found ∧ found.sitePath = file.sitePath ∧
      (∀ route, found.route = some route → LinkVerdict config tree place none) ∧
      (found.route = none → LinkVerdict config tree place (some (.link {
        source := .markdown place.page.sitePath place.link.line
        target := place.link.target
        resolved := file.sitePath.text }))) ∧
      (∀ broken ∈ (checkLinks config tree).value.brokenReferences,
        broken.file = place.page.sitePath → broken.target ≠ place.link.target) ∧
      ∀ broken ∈ (checkLinks config tree).value.brokenLinks, ∀ line,
        broken.source = .markdown place.page.sitePath line → broken.target = place.link.target →
          found.route = none := by
  have fileResolved := discovered.collapse_sitePath member
  have pageResolved := discovered.collapse_sitePath (mem_files_of_publishedLinks published)
  obtain ⟨found, isFound⟩ : ∃ found, tree.FileAt file.sitePath found := by
    simp only [← ContentTree.source?_eq_some, ← Option.ne_none_iff_exists', ne_eq,
      ContentTree.source?_eq_none, not_not]
    exact ⟨file, member, fileResolved.symm⟩
  have samePath : found.sitePath = file.sitePath := by
    obtain ⟨-, -, -, samePath, -⟩ := isFound
    exact samePath.trans fileResolved
  -- A report may name another link with this target on a page with the same path; what is found for
  -- it is the same.
  have alike {other : PublishedLink} {finding : Finding}
      (samePage : other.page.sitePath = place.page.sitePath)
      (sameTarget : other.link.target = place.link.target)
      (given : LinkVerdict config tree other (some finding)) :
      found.route = none ∧ ∃ broken, finding = .link broken := by
    obtain ⟨served, draft⟩ := linkVerdict_relative (samePage ▸ pageResolved) fileResolved named
      markdown (by rw [samePage, sameTarget]; exact written) isFound
    have isGiven := (linkVerdict_iff other _).mp given
    cases route : found.route with
    | some route' =>
      rw [(linkVerdict_iff other _).mp (served route' route)] at isGiven
      cases isGiven
    | none =>
      rw [(linkVerdict_iff other _).mp (draft route)] at isGiven
      obtain rfl := Option.some.inj isGiven
      exact ⟨rfl, _, rfl⟩
  obtain ⟨served, draft⟩ := linkVerdict_relative pageResolved fileResolved named markdown written
    isFound
  rw [samePath] at draft
  refine ⟨found, isFound, samePath, served, draft, ?_, ?_⟩
  · intro broken reported samePage sameTarget
    obtain ⟨other, -, given⟩ := mem_brokenReferences_iff.mp reported
    obtain ⟨onPage, -, target⟩ := given.of_reference
    obtain ⟨-, link, impossible⟩ :=
      alike (onPage.symm.trans samePage) (target.symm.trans sameTarget) given
    cases impossible
  · intro broken reported line onPage sameTarget
    rcases mem_brokenLinks_iff.mp reported with ⟨link, -, given⟩ | ⟨other, -, given⟩
    · cases given with
      | missing => cases onPage
    · obtain ⟨source, target⟩ := given.of_link
      have samePage := LinkSource.markdown.inj (source.symm.trans onPage)
      exact (alike samePage.1 (target.symm.trans sameTarget) given).1

end Reports

/-! ## Names that must be encoded -/

/-- Every step can be written, with upper-case digits for one. -/
theorem writesStep_encode (step : String) :
    WritesStep step (String.ofList (Text.Percent.encode isUnreserved step.toList)) := by
  rw [WritesStep, String.toList_ofList]
  exact Text.Percent.spells_encode isUnreserved step.toList

/-- A page that links to a file whose path holds what would open a query, a fragment, a scheme and a
triple. -/
def encodedDisk : Disk := { top := .directory [
  ("docs", .directory [
    ("a b", .directory [
      ("page.md", .file (.text "[up](../c%3A/50%25%20%3F%23%C3%A9.mdx?x=1#top)"))]),
    ("c:", .directory [("50% ?#é.mdx", .file (.text "# Discount"))])])] }

/-- Nothing is wrong with that link. -/
theorem checkLinks_relativeTarget_encoded :
    ∃ tree place file found, ContentTree.DiscoveredOn encodedDisk ⟨"."⟩ .bare tree ∧
      place ∈ tree.publishedLinks ∧ file ∈ tree.files ∧
      place.page.sitePath = ⟨"docs/a b/page.md"⟩ ∧ file.sitePath = ⟨"docs/c:/50% ?#é.mdx"⟩ ∧
      RelativeTarget place.page.sitePath file.sitePath place.link.target ∧
      tree.FileAt file.sitePath found ∧
      (∀ route, found.route = some route → LinkVerdict .bare tree place none) ∧
      ∀ broken ∈ (checkLinks .bare tree).value.brokenReferences,
        broken.file = place.page.sitePath → broken.target ≠ place.link.target := by
  obtain ⟨tree, discovered, seen⟩ : ∃ tree, ContentTree.DiscoveredOn encodedDisk ⟨"."⟩ .bare tree ∧
      (tree.publishedLinks.map (fun place => (place.page.sitePath, place.link.target)),
        tree.files.map ContentFile.sitePath) =
        ([(⟨"docs/a b/page.md"⟩, "../c%3A/50%25%20%3F%23%C3%A9.mdx?x=1#top")],
          [⟨"docs/a b/page.md"⟩, ⟨"docs/c:/50% ?#é.mdx"⟩]) :=
    ContentTree.exists_of_view (by decide +kernel)
  obtain ⟨links, paths⟩ := Prod.mk.inj seen
  obtain ⟨place, published, isHere⟩ : ∃ place ∈ tree.publishedLinks,
      (place.page.sitePath, place.link.target) =
        (⟨"docs/a b/page.md"⟩, "../c%3A/50%25%20%3F%23%C3%A9.mdx?x=1#top") := by
    rw [← List.mem_map, links]
    exact List.mem_singleton_self _
  obtain ⟨page, target⟩ := Prod.mk.inj isHere
  obtain ⟨file, member, path⟩ : ∃ file ∈ tree.files, file.sitePath = ⟨"docs/c:/50% ?#é.mdx"⟩ := by
    rw [← List.mem_map, paths]
    exact List.mem_cons_of_mem _ (List.mem_singleton_self _)
  have named : file.sitePath.fileName? = some "50% ?#é.mdx" := by
    rw [path]
    decide +kernel
  have markdown : Route.NamesMarkdown "50% ?#é.mdx" :=
    .inr (List.isSuffixOf_iff_suffix.mp (by decide +kernel))
  have writes : List.Forall₂ WritesStep (Path.relativeSteps ["a b"] ["c:", "50% ?#é.mdx"])
      ["..", "c%3A", "50%25%20%3F%23%C3%A9.mdx"] :=
    .cons (writesStep_encode "..") (.cons (writesStep_encode "c:")
      (.cons (writesStep_encode "50% ?#é.mdx") .nil))
  have written : RelativeTarget place.page.sitePath file.sitePath place.link.target := by
    rw [page, path, target]
    exact @RelativeTarget.intro _ _ ["docs"] ["a b"] ["c:"] _ "page.md" "50% ?#é.mdx" "?x=1#top"
      (by decide +kernel) (by decide +kernel) writes fun c isHead => .inl (Option.some.inj isHead).symm
  obtain ⟨found, isFound, -, served, -, unreported, -⟩ :=
    checkLinks_relativeTarget discovered published member named markdown written
  exact ⟨tree, place, file, found, discovered, published, member, page, path, written, isFound, served,
    unreported⟩

end Docsite
