/-
**Relative links.**

A relative link is followed step by step: `.` leads nowhere else, `..` leads out of a segment and a name
leads into one. Where pages are served as directories, the first step starts inside the page, otherwise
beside it. Nothing leads above the root.

* `WritesSteps`: the targets that are written as steps.
* `resolveOnPage_steps`: where the steps lead.
* `findingOf?_steps`: what a check looks up for such a link.
-/

import Docsite.Proofs.Check.RelativeReferences
import Docsite.Proofs.Route.Beside
import Docsite.Proofs.Route.Plain

namespace Docsite

open Route (IsPlain Step through)
open Url (namedPieces pathPieces)

/-- A target is written as steps with slashes between them. A slash may close it, and a query or a
fragment may follow. -/
inductive WritesSteps (steps : List Step) : String → Prop
  | intro {closing tail : String} : closing = "" ∨ closing = "/" →
      (∀ c ∈ tail.toList.head?, c = '?' ∨ c = '#') →
      WritesSteps steps (Text.joinWith "/" (steps.map Step.text) ++ closing ++ tail)

/-- The segments from which the relative links of a page start: its own where pages are served as
directories, otherwise all of them but the last. -/
def SiteConfig.linkStart (config : SiteConfig) (segments : List String) : List String :=
  if config.trailingSlash = some true then segments else segments.dropLast

theorem SiteConfig.isPlain_linkStart {segments : List String} (config : SiteConfig)
    (plain : ∀ segment ∈ segments, IsPlain segment) :
    ∀ segment ∈ config.linkStart segments, IsPlain segment := by
  unfold linkStart
  split
  · exact plain
  · exact fun segment member => plain segment (List.dropLast_subset segments member)

/-- A `..` in front is one more step. -/
theorem WritesSteps.climb {steps : List Step} {target : String} (written : WritesSteps steps target)
    (stepped : steps ≠ []) : WritesSteps (.up :: steps) ("../" ++ target) := by
  obtain @⟨closing, tail, closed, isTail⟩ := written
  have up : Text.joinWith "/" [Step.up.text] ++ "/" = "../" := rfl
  have some : steps.map Step.text ≠ [] := mt List.map_eq_nil_iff.mp stepped
  have joined := Route.joinWith_append (List.cons_ne_nil Step.up.text []) some
  rw [up] at joined
  rw [← String.append_assoc, ← String.append_assoc, ← joined]
  exact .intro closed isTail

/-! ## Written steps -/

section Written

variable {segments : List String} {steps : List Step} {closing tail : String}
  (arePlain : ∀ step ∈ steps, step.IsPlain) (stepped : steps ≠ [])
  (closed : closing = "" ∨ closing = "/")

theorem toList_joinWith_steps : (Text.joinWith "/" (steps.map Step.text) ++ closing).toList =
    ['/'].intercalate (steps.map fun step => step.text.toList) ++ closing.toList := by
  rw [String.toList_append, Path.toList_joinWith_slash, List.map_map]
  rfl

include arePlain

section Characters

include closed

/-- The characters of written steps stay as they are, and none of them is a colon. -/
theorem mem_written : ∀ c ∈ (Text.joinWith "/" (steps.map Step.text) ++ closing).toList,
    Url.keepsInPath c = true ∧ c ≠ ':' := by
  refine Path.forall_mem_closed (by decide) (fun text isText c inText => ?_) closed
  obtain ⟨step, isStep, rfl⟩ := List.mem_map.mp isText
  obtain ⟨keeps, -, noColon⟩ := (arePlain step isStep).chars c inText
  exact ⟨keeps, noColon⟩

/-- Written steps are the path of the target. -/
theorem path_written {link : MarkdownLink}
    (target : link.target = Text.joinWith "/" (steps.map Step.text) ++ closing ++ tail)
    (isTail : ∀ c ∈ tail.toList.head?, c = '?' ∨ c = '#') :
    link.path = Text.joinWith "/" (steps.map Step.text) ++ closing := by
  have noEnd : ∀ c ∈ (Text.joinWith "/" (steps.map Step.text) ++ closing).toList,
      Url.endsPath c = false := fun c member =>
    Url.endsPath_eq_false (mem_written arePlain closed c member).1
  rw [MarkdownLink.path, target, Route.cutSuffixes_append noEnd, Route.cutSuffixes_tail isTail,
    String.append_empty]

end Characters

include stepped

/-- Written steps start with a character of the first of them. -/
theorem head?_written (closing : String) : ∃ c,
    (Text.joinWith "/" (steps.map Step.text) ++ closing).toList.head? = some c ∧
      Url.keepsInPath c = true ∧ Url.isPathSlash .web c = false := by
  obtain ⟨first, rest, rfl⟩ := List.exists_cons_of_ne_nil stepped
  have isPlain := arePlain first List.mem_cons_self
  obtain ⟨c, more, spelled⟩ := List.exists_cons_of_ne_nil
    (fun nothing => isPlain.named (String.toList_eq_nil_iff.mp nothing))
  obtain ⟨keeps, noSlash, -⟩ := isPlain.chars c (spelled ▸ List.mem_cons_self)
  refine ⟨c, ?_, keeps, noSlash⟩
  rw [toList_joinWith_steps, List.map_cons]
  cases rest with
  | nil =>
    rw [List.map_nil, List.intercalate_singleton, spelled]
    rfl
  | cons second rest =>
    rw [List.map_cons, List.intercalate_cons_cons, spelled]
    rfl

include closed

/-- The pieces of written steps are the texts of the steps. -/
theorem namedPieces_written :
    [] ∉ (pathPieces .web (Text.joinWith "/" (steps.map Step.text) ++ closing).toList).dropLast ∧
      namedPieces (Text.joinWith "/" (steps.map Step.text) ++ closing).toList =
        steps.map fun step => step.text.toList := by
  have noSlash : ∀ text ∈ steps.map Step.text, ∀ c ∈ text.toList,
      Url.isPathSlash .web c = false := by
    intro text isText c inText
    obtain ⟨step, isStep, rfl⟩ := List.mem_map.mp isText
    exact ((arePlain step isStep).chars c inText).2.1
  have named : "" ∉ steps.map Step.text := by
    intro member
    obtain ⟨step, isStep, empty⟩ := List.mem_map.mp member
    exact (arePlain step isStep).named empty
  have pieces := Route.namedPieces_joined noSlash named
    (closed.imp_right fun slash => ⟨slash, fun nothing => stepped (List.map_eq_nil_iff.mp nothing)⟩)
  rwa [List.map_map] at pieces

/-- **No ending of a Markdown file closes written steps**: a step with a dot holds dots only. -/
theorem not_endsMarkdown_written {letters : List Char} (noSlash : '/' ∉ letters)
    (marked : 'm' ∈ letters) :
    ¬ '.' :: letters <:+ (Text.joinWith "/" (steps.map Step.text) ++ closing).toList := by
  intro ends
  have noSlashes : '/' ∉ '.' :: letters := fun member =>
    (List.mem_cons.mp member).elim (by decide) noSlash
  rcases closed with rfl | rfl
  · obtain ⟨front, last, rfl⟩ := (List.eq_nil_or_concat' steps).resolve_left stepped
    rw [String.append_empty, List.map_append] at ends
    have inLast := (Path.suffix_ofNames_iff noSlashes _ _).mp ends
    have isDot := (arePlain last List.mem_concat_self).eq_dot (inLast.subset List.mem_cons_self) 'm'
      (inLast.subset (List.mem_cons_of_mem '.' marked))
    exact absurd isDot (by decide)
  · rw [String.toList_append] at ends
    rcases List.suffix_concat_iff.mp ends with nothing | ⟨front, spelled, -⟩
    · cases nothing
    · exact noSlashes (spelled ▸ List.mem_concat_self)

end Written

/-! ## Where the steps lead -/

section Links

variable {config : SiteConfig} {tree : ContentTree} {page : ContentFile} {link : MarkdownLink}
  {segments : List String} {steps : List Step} {closing : String}

/-- Written steps on a page lead where they lead from its segments but the last one. -/
theorem resolve_written {served : String} {list : List Url.Segment}
    (arePlain : ∀ step ∈ steps, step.IsPlain) (stepped : steps ≠ [])
    (closed : closing = "" ∨ closing = "/") (plain : ∀ segment ∈ segments, IsPlain segment)
    (joined : Route.root.join served = .ok { Route.root with path := .segments list })
    (start : list.dropLast = segments.map String.toList) :
    Route.resolve served (Text.joinWith "/" (steps.map Step.text) ++ closing) =
      through (steps.foldl Step.after segments) := by
  obtain ⟨first, starts, -, noSlash⟩ := head?_written arePlain stepped closing
  obtain ⟨inner, pieces⟩ := namedPieces_written arePlain stepped closed
  have nonempty : (Text.joinWith "/" (steps.map Step.text) ++ closing).toList ≠ [] := by
    intro nothing
    rw [nothing] at starts
    cases starts
  have relative : ∀ c ∈ (Text.joinWith "/" (steps.map Step.text) ++ closing).toList.head?,
      Url.isPathSlash .web c = false := by
    intro c isHead
    rw [starts] at isHead
    exact Option.some.inj isHead ▸ noSlash
  have leads := Route.resolve_walk joined Route.root_kind rfl
    (start ▸ Route.isKept_plain plain) (start ▸ Route.nil_notMem_plain plain)
    (fun c member => (mem_written arePlain closed c member).1)
    (fun colon => (mem_written arePlain closed ':' colon).2 rfl) nonempty inner relative
  rwa [String.ofList_toList, pieces, start, Route.walk_steps arePlain plain,
    Route.map_ofList_toList] at leads

/-- **A relative path leads where its steps lead**, from inside the page or from beside it. -/
theorem resolveOnPage_steps (arePlain : ∀ step ∈ steps, step.IsPlain) (stepped : steps ≠ [])
    (closed : closing = "" ∨ closing = "/") (plain : ∀ segment ∈ segments, IsPlain segment) :
    resolveOnPage config (through segments) (Text.joinWith "/" (steps.map Step.text) ++ closing) =
      through (steps.foldl Step.after (config.linkStart segments)) := by
  have kept := Route.isKept_plain plain
  have named := Route.nil_notMem_plain plain
  have relative : ¬ ['/'] <+: (Text.joinWith "/" (steps.map Step.text) ++ closing).toList := by
    obtain ⟨first, starts, -, noSlash⟩ := head?_written arePlain stepped closing
    intro slash
    obtain rfl := Option.some.inj
      (starts.symm.trans (List.singleton_prefix_iff_head?_eq_some.mp slash))
    cases noSlash
  rw [SiteConfig.linkStart]
  split
  · next inside =>
    have joined := Route.join_through_closed kept named
    rw [Route.map_ofList_toList] at joined
    rw [← resolve_written arePlain stepped closed plain joined List.dropLast_concat]
    exact leadsTo_iff.mp (.insidePage relative inside)
  · next outside =>
    obtain ⟨list, start, joined⟩ := Route.join_through kept named
    rw [Route.map_ofList_toList] at joined
    rw [← resolve_written arePlain stepped closed
      (fun segment member => plain segment (List.dropLast_subset segments member)) joined
      (start.trans List.map_dropLast.symm)]
    exact leadsTo_iff.mp (.besidePage relative outside)

/-- A target that is written as steps leads to another place of the site, and not to a Markdown file. -/
theorem WritesSteps.isRoute (written : WritesSteps steps link.target)
    (arePlain : ∀ step ∈ steps, step.IsPlain) (stepped : steps ≠ []) :
    ¬ link.StaysAside ∧ ¬ link.IsReference ∧ ∃ closing, (closing = "" ∨ closing = "/") ∧
      link.path = Text.joinWith "/" (steps.map Step.text) ++ closing := by
  generalize targetIs : link.target = target at written
  obtain @⟨closing, tail, closed, isTail⟩ := written
  have path := path_written arePlain closed targetIs isTail
  obtain ⟨first, starts, keeps, noSlash⟩ := head?_written arePlain stepped closing
  have aside : ¬ link.StaysAside := by
    refine not_staysAside_relative targetIs path ?_ ?_ ?_
      (fun colon => (mem_written arePlain closed ':' colon).2 rfl) isTail
    · intro nothing
      rw [nothing] at starts
      cases starts
    · intro slash
      obtain rfl := Option.some.inj (starts.symm.trans slash)
      cases noSlash
    · intro mark
      obtain rfl := Option.some.inj (starts.symm.trans mark)
      cases keeps
  have reference : ¬ link.IsReference := by
    rw [MarkdownLink.IsReference, path]
    rintro (ends | ends)
    · exact not_endsMarkdown_written arePlain stepped closed (by decide) (by decide) ends
    · exact not_endsMarkdown_written arePlain stepped closed (by decide) (by decide) ends
  exact ⟨aside, reference, closing, closed, path⟩

/-- **A relative link leads where its steps lead**, whatever query or fragment follows them. That is the
route that a check looks for, and the one that it reports as missing. Where pages are served as
directories, one more `..` in front leads to where the link leads on a site that serves them as files. -/
theorem findingOf?_steps (plain : ∀ segment ∈ segments, IsPlain segment)
    (arePlain : ∀ step ∈ steps, step.IsPlain) (stepped : steps ≠ [])
    (written : WritesSteps steps link.target) :
    resolveOnPage config (through segments) link.path =
        through (steps.foldl Step.after (config.linkStart segments)) ∧
      findingOf? config tree page (through segments) link =
        (if through (steps.foldl Step.after (config.linkStart segments)) ∈ tree.routes.routes then none
        else some (.link {
          source := .markdown page.sitePath link.line
          target := link.target
          resolved := through (steps.foldl Step.after (config.linkStart segments)) })) ∧
      (config.trailingSlash = some true →
        ∀ asFiles : SiteConfig, asFiles.trailingSlash ≠ some true →
          ∀ climbing : MarkdownLink, climbing.target = "../" ++ link.target →
            resolveOnPage config (through segments) climbing.path =
              resolveOnPage asFiles (through segments) link.path) := by
  obtain ⟨onSite, isRoute, closing, closed, path⟩ := written.isRoute arePlain stepped
  have leads : resolveOnPage config (through segments) link.path =
      through (steps.foldl Step.after (config.linkStart segments)) := by
    rw [path]
    exact resolveOnPage_steps arePlain stepped closed plain
  refine ⟨leads, ?_, fun inside asFiles outside climbing target => ?_⟩
  · have normal := Route.normalize_through
      (Route.isPlain_steps arePlain (config.isPlain_linkStart plain))
    rw [findingOf?_path onSite isRoute, leads, Route.Table.contains, normal]
    simp only [List.contains_iff_mem]
  · have allPlain : ∀ step ∈ Step.up :: steps, step.IsPlain :=
      List.forall_mem_cons.mpr ⟨trivial, arePlain⟩
    have up : WritesSteps (.up :: steps) climbing.target := target ▸ written.climb stepped
    obtain ⟨-, -, climbed, ends, climbs⟩ := up.isRoute allPlain (List.cons_ne_nil .up steps)
    rw [climbs, resolveOnPage_steps allPlain (List.cons_ne_nil .up steps) ends plain, path,
      resolveOnPage_steps arePlain stepped closed plain, List.foldl_cons, SiteConfig.linkStart,
      if_pos inside, SiteConfig.linkStart, if_neg outside]
    rfl

end Links

/-! ## A page with a link -/

/-- The guide of a site. -/
def guidePage (links : List MarkdownLink) : ContentFile where
  kind := .doc
  sourcePath := ⟨"docs/guide.md"⟩
  sitePath := ⟨"docs/guide.md"⟩
  route := some "/docs/guide"
  links := links

/-- A link out of the guide, out of its directory, and to a page that does not exist. It is the same link
with one `..` less where the guide is served as a file. -/
theorem findingOf?_steps_out :
    let link : MarkdownLink := { target := ".././intro/?x=1#top", line := 1 }
    let climbing : MarkdownLink := { target := "../.././intro/?x=1#top", line := 1 }
    let page := guidePage [climbing]
    let config := { SiteConfig.bare with trailingSlash := some true }
    findingOf? config { files := [page] } page "/docs/guide" climbing = some (.link {
        source := .markdown ⟨"docs/guide.md"⟩ 1
        target := "../.././intro/?x=1#top"
        resolved := "/intro" }) ∧
      resolveOnPage config "/docs/guide" climbing.path =
        resolveOnPage .bare "/docs/guide" link.path := by
  intro link climbing page config
  have plain : ∀ segment ∈ ["docs", "guide"], IsPlain segment := by decide
  have arePlain : ∀ step ∈ [Step.up, .here, .into "intro"], step.IsPlain := by decide
  have isTail : ∀ c ∈ "?x=1#top".toList.head?, c = '?' ∨ c = '#' := fun c isHead =>
    .inl (Option.some.inj isHead).symm
  have written : WritesSteps [.up, .here, .into "intro"] link.target :=
    @WritesSteps.intro _ "/" "?x=1#top" (.inr rfl) isTail
  have allPlain : ∀ step ∈ [Step.up, .up, .here, .into "intro"], step.IsPlain := by decide
  have climbs : WritesSteps [.up, .up, .here, .into "intro"] climbing.target :=
    @WritesSteps.intro _ "/" "?x=1#top" (.inr rfl) isTail
  have missing : through ["intro"] ∉ ({ files := [page] } : ContentTree).routes.routes := by decide +kernel
  obtain ⟨-, found, -⟩ := @findingOf?_steps config { files := [page] } page climbing _ _ plain
    allPlain (List.cons_ne_nil _ _) climbs
  obtain ⟨-, -, same⟩ := @findingOf?_steps config { files := [page] } page link _ _ plain
    arePlain (List.cons_ne_nil _ _) written
  exact ⟨found.trans (if_neg missing), same rfl .bare nofun climbing rfl⟩

end Docsite
