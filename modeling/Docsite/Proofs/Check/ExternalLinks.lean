/-
**Links that leave the site.**

A target counts as external by how it is written: by a scheme or by two slashes at its start. Where it
leads is settled by reading it as a URL, and there blanks, control characters and line breaks do not count
and a backslash is a slash. The two agree on targets that are written plainly. Any other target may lead
to another host and still be looked up among the routes of the site.

* `Disguised`: targets that lead elsewhere and do not count as external.
* `IsPlainlyWritten.not_disguised`: no target that is written plainly is one.
* `isExternal_iff_leaves`: the other targets that do not count as external stay on the host of every page.
-/

import Mathlib.Data.Bool.AllAny
import Docsite.Proofs.Check.Verdict
import Docsite.Proofs.Url.References

namespace Docsite

/-! ## Targets with a scheme -/

theorem isSchemeChar_eq (c : Char) : isSchemeChar c = Url.isSchemeChar c := by
  rw [isSchemeChar, Url.isSchemeChar, Bool.or_right_comm]

/-- A text that begins with the name of a scheme and a colon has a scheme, whatever follows. -/
theorem hasScheme_schemeName {name : List Char} {scheme : String} (isName : Url.IsSchemeName name scheme)
    (rest : List Char) : hasScheme (name ++ ':' :: rest) = true := by
  obtain ⟨first, isFirst, letter⟩ := isName.first
  cases name with
  | nil => cases isFirst
  | cons c more =>
    obtain rfl : c = first := Option.some.inj isFirst
    have every : ∀ d ∈ more, isSchemeChar d = true := fun d member => by
      rw [isSchemeChar_eq]
      exact isName.every d (List.mem_cons_of_mem c member)
    rw [List.cons_append, hasScheme, letter, List.dropWhile_append_of_pos every,
      List.dropWhile_cons_of_neg (by decide)]
    rfl

/-! ## Targets that are written plainly -/

/-- A target in which everything counts, apart from blanks at its end, and which does not open with a
backslash in place of a slash. -/
structure IsPlainlyWritten (target : String) : Prop where
  first : ∀ c ∈ target.toList.head?, Url.isControlOrSpace c = false
  unbroken : ∀ c ∈ target.toList, c ∉ ['\t', '\n', '\r']
  slashes : '\\' ∉ target.toList.take 2

instance (target : String) : Decidable (IsPlainlyWritten target) :=
  decidable_of_iff
    ((target.toList.head?.all (!Url.isControlOrSpace ·)) = true ∧
      (target.toList.all fun c => c ∉ ['\t', '\n', '\r']) = true ∧ '\\' ∉ target.toList.take 2)
    ⟨fun ⟨first, unbroken, slashes⟩ =>
        ⟨by simpa [Option.all_eq_true] using first, List.all_iff_forall_prop.mp unbroken, slashes⟩,
      fun ⟨first, unbroken, slashes⟩ =>
        ⟨by simpa [Option.all_eq_true] using first, List.all_iff_forall_prop.mpr unbroken, slashes⟩⟩

/-- A target leads elsewhere although it does not count as external: it names a place of its own. -/
def Disguised (target : String) : Prop :=
  isExternal target = false ∧ Url.NamesPlace (Url.significant target.toList)

instance (target : String) : Decidable (Disguised target) :=
  inferInstanceAs (Decidable (_ ∧ _))

namespace IsPlainlyWritten

variable {target : String} (plain : IsPlainlyWritten target)

include plain

/-- What counts in the target is its front. -/
theorem significant_append : ∃ ignored, target.toList = Url.significant target.toList ++ ignored := by
  obtain ⟨ignored, split, -⟩ :=
    Text.exists_dropEndWhile_append Url.isControlOrSpace target.toList
  refine ⟨ignored, ?_⟩
  have whole : Url.significant target.toList =
      Text.dropEndWhile Url.isControlOrSpace target.toList := by
    rw [Url.significant, Text.dropBothWhile, Text.dropWhile_eq_self plain.first, List.filter_eq_self]
    intro c member
    have counts := plain.unbroken c (split ▸ List.mem_append_left ignored member)
    simp only [List.mem_cons, List.not_mem_nil, or_false, not_or] at counts
    simp [counts]
  rwa [whole]

/-- **A target that is written plainly counts as external if it names a place of its own.** -/
theorem isExternal_of_namesPlace (place : Url.NamesPlace (Url.significant target.toList)) :
    isExternal target = true := by
  obtain ⟨ignored, split⟩ := plain.significant_append
  rw [isExternal, Bool.or_eq_true]
  match cut : Url.cutScheme? (Url.significant target.toList) with
  | some (scheme, rest) =>
    obtain ⟨name, isName, spelled⟩ := Url.cutScheme?_eq_some.mp cut
    rw [split, spelled, List.append_assoc, List.cons_append]
    exact .inr (hasScheme_schemeName isName _)
  | none =>
    obtain ⟨first, second, rest, spelled, isFirst, isSecond⟩ :=
      Url.namesHost_iff.mp ((Url.namesPlace_relative cut).mp place)
    have whole : target.toList = first :: second :: (rest ++ ignored) := by
      rw [split, spelled]
      rfl
    have isSlash {c : Char} (early : c ∈ target.toList.take 2) (either : Url.isEitherSlash c = true) :
        c = '/' := by
      rcases (by simpa [Url.isEitherSlash] using either : c = '/' ∨ c = '\\') with rfl | rfl
      · rfl
      · exact absurd early plain.slashes
    obtain rfl := isSlash (by rw [whole]; exact List.mem_cons_self) isFirst
    obtain rfl := isSlash (by rw [whole]; exact List.mem_cons_of_mem _ List.mem_cons_self) isSecond
    rw [whole]
    exact .inl rfl

theorem not_disguised : ¬ Disguised target := by
  rintro ⟨internal, place⟩
  rw [plain.isExternal_of_namesPlace place] at internal
  cases internal

end IsPlainlyWritten

/-! ## Links -/

/-- **Links that leave the site count as external, unless they are disguised.** A target that does not
count as external leads to the host of every page that it may stand on, exactly if it is not disguised,
and no target that is written plainly is. A link that leads to another host than that of its page is left
aside, whatever the site serves, unless its target is disguised. -/
theorem isExternal_of_leaves (target : String) :
    (isExternal target = false →
      ((∀ page : Url, page.IsPage → page.Keeps target) ↔ ¬ Disguised target)) ∧
    (IsPlainlyWritten target → ¬ Disguised target) ∧
    ∀ (place : PublishedLink) (page : Url), place.link.target = target →
      ['/'] <+: place.route.toList → Route.root.join place.route = .ok page →
        ¬ Disguised target → ¬ page.Keeps target →
          ∀ config tree, LinkVerdict config tree place none := by
  have stays (internal : isExternal target = false) :
      (∀ page : Url, page.IsPage → page.Keeps target) ↔ ¬ Disguised target := by
    rw [Url.keeps_iff, Disguised, not_and]
    exact ⟨fun noPlace _ => noPlace, fun noPlace => noPlace internal⟩
  refine ⟨stays, IsPlainlyWritten.not_disguised, ?_⟩
  rintro place page rfl slash served undisguised leaves config tree
  refine .aside (.inr (.inr ?_))
  by_contra internal
  have isRoot : Route.root.IsPage := ⟨rfl, _, rfl⟩
  exact leaves ((stays (Bool.eq_false_iff.mpr internal)).mpr undisguised page
    (isRoot.of_join slash served))

/-- The URL of a page of the site. -/
def introUrl : Url :=
  { scheme := "http", host := some (.domain ['x']), path := .segments ["docs".toList, "intro".toList] }

/-- A relative target stays on the host of every page, and one on another host is left aside. -/
theorem isExternal_of_leaves_intro :
    isExternal "../guide?x=1" = false ∧ (∀ page : Url, page.IsPage → page.Keeps "../guide?x=1") ∧
      IsPlainlyWritten "//other.org/guide" ∧ Route.root.join "/docs/intro" = .ok introUrl ∧
      ¬ introUrl.Keeps "//other.org/guide" ∧
      ∀ page config tree, LinkVerdict config tree
        { page, route := "/docs/intro", link := { target := "//other.org/guide", line := 1 } } none := by
  have internal : isExternal "../guide?x=1" = false := by decide
  have undisguised : ¬ Disguised "../guide?x=1" := by decide +kernel
  have written : IsPlainlyWritten "//other.org/guide" := by decide
  have served : Route.root.join "/docs/intro" = .ok introUrl := by decide +kernel
  have leads : introUrl.join "//other.org/guide" =
      .ok { introUrl with host := some (.domain "other.org".toList), path := .segments ["guide".toList] } := by
    decide +kernel
  have leaves : ¬ introUrl.Keeps "//other.org/guide" := by
    rintro ⟨path, keeps⟩
    rw [leads] at keeps
    have sameHost : some (Url.Host.domain "other.org".toList) = some (.domain ['x']) :=
      congrArg Url.host (Except.ok.inj keeps)
    exact absurd sameHost (by decide)
  have slash : ['/'] <+: "/docs/intro".toList := List.isPrefixOf_iff_prefix.mp (by decide)
  obtain ⟨-, plain, aside⟩ := isExternal_of_leaves "//other.org/guide"
  exact ⟨internal, ((isExternal_of_leaves "../guide?x=1").1 internal).mpr undisguised, written, served,
    leaves, fun page => aside _ introUrl rfl slash served (plain written) leaves⟩

/-- **With a backslash for the second slash, a target leads to another host and does not count as
external.** The path on that host is looked up among the routes of the site. Blanks in front of the slashes
and line breaks between the letters of a scheme are other disguises. -/
theorem disguised_backslash :
    isExternal "/\\other.org/guide" = false ∧ Route.root.join "/docs/intro" = .ok introUrl ∧
      introUrl.join "/\\other.org/guide" = .ok { introUrl with
        host := some (.domain "other.org".toList)
        path := .segments ["guide".toList] } ∧
      (∀ target ∈ [" //other.org/guide", "ht\ntps://other.org/guide"], Disguised target) ∧
      ∀ page tree, LinkVerdict .bare tree
        { page, route := "/docs/intro", link := { target := "/\\other.org/guide", line := 1 } } none ↔
          tree.Serves "/guide" := by
  refine ⟨by decide, by decide +kernel, by decide +kernel, by decide +kernel, fun page tree => ?_⟩
  have onSite : ¬ MarkdownLink.StaysAside { target := "/\\other.org/guide", line := 1 } := by
    rw [← MarkdownLink.staysOnSite_iff]
    decide +kernel
  have isRoute : ¬ MarkdownLink.IsReference { target := "/\\other.org/guide", line := 1 } := by
    rw [← MarkdownLink.isFileReference_iff]
    decide +kernel
  have leads : Route.normalize (resolveOnPage .bare "/docs/intro"
      (MarkdownLink.path { target := "/\\other.org/guide", line := 1 })) = Route.normalize "/guide" := by
    decide +kernel
  rw [linkVerdict_iff, findingAt?, findingOf?_path onSite isRoute, ContentTree.Serves, ← leads,
    ← ContentTree.Serves, ← ContentTree.contains_routes]
  split
  · next found => exact iff_of_true rfl found
  · next missing => exact iff_of_false (Option.some_ne_none _) missing

end Docsite
