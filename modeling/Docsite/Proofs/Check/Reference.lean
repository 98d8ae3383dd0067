/-
**What a file reference stands for.**

A reference to a Markdown file is looked for at up to three places, each with its turn, and stands for
the file at the first of them that has one.

* `ReferencePlace`: the places of a reference.
* `referencedFile?_eq_some`, `referencedFile?_eq_none`: when a file is found for a reference.
-/

import Docsite.Check.Checker
import Docsite.Proofs.Content.Lookup

namespace Docsite

/-! ## Places -/

/-- The places at which a file reference on a page is looked for, each with its turn: beside the
page unless it starts at the root, below the documentation directory, and below the site directory
unless it starts at the page. -/
inductive ReferencePlace (config : SiteConfig) (page : Path) (reference : String) : Nat → Path → Prop
  | besidePage : ¬ ['/'] <+: reference.toList →
      ReferencePlace config page reference 0
        (((page.parent?).getD ⟨""⟩).join ⟨Text.trimStartOf '/' reference⟩)
  | inDocs :
      ReferencePlace config page reference 1
        (Path.join ⟨config.docs.path⟩ ⟨Text.trimStartOf '/' reference⟩)
  | inSite : ¬ ['.', '/'] <+: reference.toList → ¬ ['.', '.', '/'] <+: reference.toList →
      ReferencePlace config page reference 2 ⟨Text.trimStartOf '/' reference⟩

/-- The file that a reference stands for: the one at the first place that has a file. -/
def RefersTo (config : SiteConfig) (tree : ContentTree) (page : Path) (reference : String)
    (file : ContentFile) : Prop :=
  ∃ turn path, ReferencePlace config page reference turn path ∧ tree.FileAt path file ∧
    ∀ earlier < turn, ∀ other, ReferencePlace config page reference earlier other →
      ¬ tree.Holds other

/-- The places of a reference in a row, each with its turn. -/
def referenceTurns (config : SiteConfig) (page : Path) (reference : String) : List (Nat × Path) :=
  let relative : Path := ⟨Text.trimStartOf '/' reference⟩
  (if Text.startsWith "/" reference then [] else [(0, ((page.parent?).getD ⟨""⟩).join relative)]) ++
    [(1, Path.join ⟨config.docs.path⟩ relative)] ++
    if Text.startsWith "./" reference || Text.startsWith "../" reference then [] else [(2, relative)]

section References

variable {config : SiteConfig} {tree : ContentTree} {page : Path} {reference : String}

theorem map_referenceTurns :
    (referenceTurns config page reference).map Prod.snd =
      referenceCandidates config page reference := by
  unfold referenceTurns referenceCandidates
  dsimp only
  split <;> split <;> rfl

theorem mem_referenceTurns {turn : Nat} {path : Path} :
    (turn, path) ∈ referenceTurns config page reference ↔
      ReferencePlace config page reference turn path := by
  have rooted : Text.startsWith "/" reference = true ↔ ['/'] <+: reference.toList :=
    List.isPrefixOf_iff_prefix
  have here : Text.startsWith "./" reference = true ↔ ['.', '/'] <+: reference.toList :=
    List.isPrefixOf_iff_prefix
  have above : Text.startsWith "../" reference = true ↔ ['.', '.', '/'] <+: reference.toList :=
    List.isPrefixOf_iff_prefix
  simp only [referenceTurns, List.mem_append, List.mem_singleton, List.mem_ite_nil_left,
    Prod.mk.injEq, Bool.or_eq_true, rooted, here, above, not_or]
  constructor
  · rintro ((⟨start, rfl, rfl⟩ | ⟨rfl, rfl⟩) | ⟨⟨notHere, notAbove⟩, rfl, rfl⟩)
    · exact .besidePage start
    · exact .inDocs
    · exact .inSite notHere notAbove
  · rintro (start | _ | ⟨notHere, notAbove⟩)
    · exact .inl (.inl ⟨start, rfl, rfl⟩)
    · exact .inl (.inr ⟨rfl, rfl⟩)
    · exact .inr ⟨⟨notHere, notAbove⟩, rfl, rfl⟩

theorem pairwise_referenceTurns :
    (referenceTurns config page reference).Pairwise (·.1 < ·.1) := by
  unfold referenceTurns
  dsimp only
  split <;> split <;> simp

/-- The first answer in a row of places with ascending turns is that of a place before which no
other place answers. -/
theorem findSome?_eq_some_iff_of_pairwise {α β : Type} {places : List (Nat × α)}
    (ascending : places.Pairwise (·.1 < ·.1)) {find : α → Option β} {answer : β} :
    (places.map Prod.snd).findSome? find = some answer ↔
      ∃ turn place, (turn, place) ∈ places ∧ find place = some answer ∧
        ∀ earlier < turn, ∀ other, (earlier, other) ∈ places → find other = none := by
  induction places with
  | nil => simp
  | cons first rest ih =>
    obtain ⟨before, ascends⟩ := List.pairwise_cons.mp ascending
    rw [List.map_cons, List.findSome?_cons]
    match found : find first.2 with
    | some other =>
      constructor
      · rintro same
        refine ⟨first.1, first.2, List.mem_cons_self, by rw [found, ← same], ?_⟩
        intro earlier less place member
        rcases List.mem_cons.mp member with rfl | member
        · exact absurd less (Nat.lt_irrefl _)
        · exact absurd less (Nat.lt_asymm (before _ member))
      · rintro ⟨turn, place, member, answered, first'⟩
        rcases List.mem_cons.mp member with rfl | member
        · rw [← answered, found]
        · have none := first' first.1 (before _ member) first.2 List.mem_cons_self
          rw [found] at none
          cases none
    | none =>
      rw [ih ascends]
      constructor
      · rintro ⟨turn, place, member, answered, first'⟩
        refine ⟨turn, place, List.mem_cons_of_mem _ member, answered, ?_⟩
        intro earlier less other otherMember
        rcases List.mem_cons.mp otherMember with rfl | otherMember
        · exact found
        · exact first' earlier less other otherMember
      · rintro ⟨turn, place, member, answered, first'⟩
        rcases List.mem_cons.mp member with rfl | member
        · rw [found] at answered
          cases answered
        · exact ⟨turn, place, member, answered, fun earlier less other otherMember =>
            first' earlier less other (List.mem_cons_of_mem _ otherMember)⟩

/-- **The file that is found for a reference is the one that it stands for.** -/
theorem referencedFile?_eq_some {file : ContentFile} :
    referencedFile? config tree page reference = some file ↔
      RefersTo config tree page reference file := by
  rw [referencedFile?, ← map_referenceTurns,
    findSome?_eq_some_iff_of_pairwise pairwise_referenceTurns]
  simp only [mem_referenceTurns, ContentTree.source?_eq_some, ContentTree.source?_eq_none, RefersTo]

/-- **Nothing is found for a reference exactly if none of its places has a file.** -/
theorem referencedFile?_eq_none :
    referencedFile? config tree page reference = none ↔
      ∀ turn path, ReferencePlace config page reference turn path → ¬ tree.Holds path := by
  rw [referencedFile?, ← map_referenceTurns, List.findSome?_eq_none_iff]
  constructor
  · intro nowhere turn path place
    exact ContentTree.source?_eq_none.mp
      (nowhere path (List.mem_map.mpr ⟨(turn, path), mem_referenceTurns.mpr place, rfl⟩))
  · intro nowhere path member
    obtain ⟨⟨turn, place⟩, placed, rfl⟩ := List.mem_map.mp member
    exact ContentTree.source?_eq_none.mpr (nowhere turn place (mem_referenceTurns.mp placed))

end References

end Docsite
