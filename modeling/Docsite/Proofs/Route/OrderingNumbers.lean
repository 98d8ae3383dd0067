/-
**Ordering numbers do not show.**

A number with separators behind it can be put in front of any name that has none of its own, and is taken
off again where a route is made of the name. The route of a documentation page is therefore the one that
it has without the numbers, whichever of its directories carry one and whether or not its file does.

* `NumberPrefix.IsMark`: an ordering number with its separators.
* `NumberPrefix.strip_mark`: such a number is taken off.
* `IsNumbered`: a path with ordering numbers in front of some of its names.
* `ofDoc_isNumbered`: the route of a page is the same with them.
-/

import Docsite.Proofs.Path.Parent
import Docsite.Proofs.Route.NumberPrefix
import Docsite.Route.Content

namespace Docsite.Route

open Docsite.Path (Component)

/-! ## Numbers in front of names -/

namespace NumberPrefix

/-- One or more digits and then one or more separators. -/
def IsMark (mark : String) : Prop :=
  ∃ digits separators : List Char, mark.toList = digits ++ separators ∧ digits ≠ [] ∧
    separators ≠ [] ∧ (∀ c ∈ digits, Text.isDecimalDigit c = true) ∧
    ∀ c ∈ separators, isSeparator c = true

/-- A name that can stand behind an ordering number: it carries none, it is written on one line, and it
starts neither with a separator nor with a blank. -/
structure TakesNumber (name : String) : Prop where
  bare : strip name = name
  oneLine : '\n' ∉ name.toList
  start : ∀ c ∈ name.toList.head?, startsName c = true

instance {name : String} : Decidable (TakesNumber name) :=
  decidable_of_iff
    (strip name = name ∧ '\n' ∉ name.toList ∧ name.toList.head?.all startsName = true)
    ⟨fun ⟨bare, oneLine, start⟩ => ⟨bare, oneLine, by simpa [Option.all_eq_true] using start⟩,
      fun ⟨bare, oneLine, start⟩ => ⟨bare, oneLine, by simpa [Option.all_eq_true] using start⟩⟩

/-- **An ordering number in front of a name is taken off.** -/
theorem strip_mark {mark name : String} (isMark : IsMark mark) (takes : TakesNumber name)
    (named : name ≠ "") : strip (mark ++ name) = name := by
  obtain ⟨digits, separators, spelled, someDigits, someSeparators, areDigits, areSeparators⟩ := isMark
  have reads : Reads (mark ++ name).toList ⟨digits, [], separators, [], name.toList⟩ :=
    { spelled := by rw [String.toList_append, spelled, List.append_assoc]; rfl
      areDigits
      blanksBefore := nofun
      someSeparators
      areSeparators
      blanksBehind := nofun
      someDigits
      named := mt String.toList_eq_nil_iff.mp named
      oneLine := takes.oneLine
      starts := fun c isFirst => startsName_iff.mp (takes.start c isFirst) }
  rw [strip_of_reads reads, String.ofList_toList]

end NumberPrefix

open NumberPrefix

/-! ## Paths with numbers -/

/-- The part of a file name that is shown in a route. -/
def shownStem (file : String) : String :=
  (Path.cutExtension file).1

/-- A component as it was, or with an ordering number in front of its name; what is shown of the name
must be something that can stand behind one. -/
inductive Numbered (shown : String → String) : Component → Component → Prop
  | same (component : Component) : Numbered shown component component
  | number {mark name : String} : IsMark mark → TakesNumber (shown name) →
      Numbered shown (.name name) (.name (mark ++ name))

/-- A path with ordering numbers in front of some of its names, the name of the file among them or
not. -/
structure IsNumbered (relative numbered : Path) : Prop where
  above : List.Forall₂ (Numbered id) relative.components.dropLast numbered.components.dropLast
  file : Option.Rel (Numbered shownStem) relative.components.getLast? numbered.components.getLast?

section Directories

/-- **Directories are shown without their numbers.** -/
theorem map_strip_numbered {plain numbered : List Component}
    (numbers : List.Forall₂ (Numbered id) plain numbered)
    (areNamed : ∀ name, .name name ∈ plain → name ≠ "") :
    (numbered.filterMap Component.name?).map strip =
      (plain.filterMap Component.name?).map strip := by
  induction numbers with
  | nil => rfl
  | @cons component other plain numbered isNumbered _ ih =>
    have rest := ih fun name member => areNamed name (List.mem_cons_of_mem component member)
    cases isNumbered with
    | same =>
      rw [List.filterMap_cons, List.filterMap_cons]
      cases component.name? with
      | none => exact rest
      | some name => rw [List.map_cons, List.map_cons, rest]
    | @number mark name isMark takes =>
      have named := areNamed name List.mem_cons_self
      have bare : strip (mark ++ name) = strip name :=
        (strip_mark isMark takes named).trans takes.bare.symm
      exact congrArg₂ List.cons bare rest

variable {relative numbered : Path} (numbers : IsNumbered relative numbered)

include numbers

theorem directories_isNumbered :
    (directories numbered).map strip = (directories relative).map strip := by
  rw [directories, directories, Path.names_parent, Path.names_parent]
  refine map_strip_numbered numbers.above fun name member => ?_
  exact (Path.isName_of_mem_components (List.dropLast_subset _ member)).ne_empty

end Directories

section Files

/-- A number in front of a Markdown file is one in front of what is shown of it. -/
theorem shownStem_append {mark file : String} (takes : TakesNumber (shownStem file))
    (isMarkdown : ['.', 'm', 'd'] <:+ file.toList ∨ ['.', 'm', 'd', 'x'] <:+ file.toList) :
    shownStem (mark ++ file) = mark ++ shownStem file ∧ shownStem file ≠ "" := by
  obtain ⟨stem, extension, spelled, noDot⟩ : ∃ stem extension : List Char,
      file.toList = stem ++ '.' :: extension ∧ '.' ∉ extension := by
    rcases isMarkdown with ⟨stem, spelled⟩ | ⟨stem, spelled⟩
    · exact ⟨stem, ['m', 'd'], spelled.symm, by decide⟩
    · exact ⟨stem, ['m', 'd', 'x'], spelled.symm, by decide⟩
  have cut := Path.cutExtension_append spelled noDot
  by_cases opens : stem = []
  · -- A dot that opens the name belongs to what is shown, and no number stands in front of a dot.
    rw [if_pos opens] at cut
    have first : '.' ∈ (shownStem file).toList.head? := by
      rw [shownStem, cut, spelled, opens]
      rfl
    exact absurd (takes.start '.' first) (by decide)
  · rw [if_neg opens] at cut
    have both : (mark ++ file).toList = (mark.toList ++ stem) ++ '.' :: extension := by
      rw [String.toList_append, spelled, List.append_assoc]
    have cutBoth := Path.cutExtension_append both noDot
    rw [if_neg (List.append_ne_nil_of_right_ne_nil _ opens)] at cutBoth
    rw [shownStem, shownStem, cut, cutBoth]
    refine ⟨?_, fun nothing => opens ?_⟩
    · rw [String.ofList_append, String.ofList_toList]
    · rw [← String.toList_ofList (l := stem)]
      exact String.toList_eq_nil_iff.mpr nothing

variable {relative numbered : Path} {file : String} (numbers : IsNumbered relative numbered)
  (isFile : relative.fileName? = some file)
  (isMarkdown : ['.', 'm', 'd'] <:+ file.toList ∨ ['.', 'm', 'd', 'x'] <:+ file.toList)

include numbers isFile isMarkdown

/-- **A file is shown without its number.** -/
theorem stem?_isNumbered : numbered.stem?.map strip = relative.stem?.map strip := by
  have last : relative.components.getLast? = some (.name file) := by
    unfold Path.fileName? at isFile
    split at isFile
    · next text found => rw [found, Option.some.inj isFile]
    · cases isFile
  obtain ⟨-, sameFile⟩ := numbers
  rw [last] at sameFile
  have stem : relative.stem? = some (shownStem file) := by
    rw [Path.stem?, isFile]
    rfl
  have stemOf {other : String} (found : numbered.components.getLast? = some (.name other)) :
      numbered.stem? = some (shownStem other) := by
    rw [Path.stem?, Path.fileName?, found]
    rfl
  generalize found : numbered.components.getLast? = other at sameFile
  cases sameFile with
  | some isNumbered =>
    cases isNumbered with
    | same => rw [stem, stemOf found]
    | @number mark _ isMark takes =>
      obtain ⟨shown, named⟩ := shownStem_append takes isMarkdown
      rw [stem, stemOf found, shown, Option.map_some, Option.map_some,
        strip_mark isMark takes named, takes.bare]

end Files

/-! ## Routes -/

/-- **Ordering numbers do not show in the routes of documentation pages.** In front of any names of the
path of a page, those of its directories and that of its file, numbers can be put without a change to its
route, whatever the base URL is, wherever the documentation is served and whatever the page says about
itself. The names must be such that a number can be told from them, for the file without its extension. -/
theorem ofDoc_isNumbered {relative numbered : Path} {file : String}
    (isFile : relative.fileName? = some file)
    (isMarkdown : ['.', 'm', 'd'] <:+ file.toList ∨ ['.', 'm', 'd', 'x'] <:+ file.toList)
    (numbers : IsNumbered relative numbered) (baseUrl routeBasePath : String)
    (frontmatter : Option Frontmatter) :
    ofDoc baseUrl routeBasePath numbered frontmatter =
      ofDoc baseUrl routeBasePath relative frontmatter := by
  have samePath : docPath numbered frontmatter = docPath relative frontmatter := by
    rw [docPath, docPath, directories_isNumbered numbers,
      stem?_isNumbered numbers isFile isMarkdown]
  rw [ofDoc, ofDoc, samePath]

/-- Numbers in front of a directory and of the page in it. The directory between them keeps a number of
its own, and the name of the first one starts with a digit. -/
theorem ofDoc_isNumbered_readme :
    IsNumbered ⟨"2x/./3-b/README.md"⟩ ⟨"01-2x/./3-b/٣_.README.md"⟩ ∧
      ofDoc "/a/" "docs" ⟨"01-2x/./3-b/٣_.README.md"⟩ none =
        ofDoc "/a/" "docs" ⟨"2x/./3-b/README.md"⟩ none ∧
      ofDoc "/a/" "docs" ⟨"2x/./3-b/README.md"⟩ none = "/a/docs/2x/b" := by
  have first : IsMark "01-" := ⟨['0', '1'], ['-'], rfl, by decide, by decide,
    List.all_eq_true.mp (by decide), List.all_eq_true.mp (by decide)⟩
  have last : IsMark "٣_." := ⟨['٣'], ['_', '.'], rfl, by decide, by decide,
    List.all_eq_true.mp (by decide), List.all_eq_true.mp (by decide)⟩
  have numbers : IsNumbered ⟨"2x/./3-b/README.md"⟩ ⟨"01-2x/./3-b/٣_.README.md"⟩ := by
    refine ⟨.cons ?_ (.cons (.same _) .nil), .some ?_⟩
    · exact @Numbered.number id "01-" "2x" first (by decide)
    · exact @Numbered.number shownStem "٣_." "README.md" last (by decide)
  have isFile : (Path.mk "2x/./3-b/README.md").fileName? = some "README.md" := by decide
  exact ⟨numbers, ofDoc_isNumbered isFile (.inl (by decide)) numbers _ _ _, by decide +kernel⟩

end Docsite.Route
