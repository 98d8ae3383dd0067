/-
**Which files are content.**

What counts as content is said here of the names that lead to a file from the directory of its kind,
without looking at how paths are taken apart.

* `ContentKind.Accepts`: the rule for each kind.
* `ContentKind.accepts_ofNames`: the check of a path follows the rule.
-/

import Docsite.Content.Kind
import Docsite.Proofs.Path.Names
import Docsite.Proofs.Text.Cut

namespace Docsite

namespace ContentKind

/-! ## The rules -/

/-- The last of some names is that of a Markdown file. -/
def NamesMarkdown (names : List String) : Prop :=
  ∃ name ∈ names.getLast?, ∃ extension ∈ ["md", "mdx"], Path.HasExtension name extension

/-- **The names that lead to content of a kind.** Static files are content under any names. A page
has one of some extensions, and none of the names starts with an underscore; a standalone page is no
test. -/
inductive Accepts : ContentKind → List String → Prop
  | static (names : List String) : Accepts .static names
  | doc {names : List String} : NamesMarkdown names →
      (∀ name ∈ names, name.toList.head? ≠ some '_') → Accepts .doc names
  | page {names : List String} {name extension : String} : names.getLast? = some name →
      extension ∈ ["md", "mdx", "js", "jsx", "ts", "tsx", "html"] →
      Path.HasExtension name extension → ¬ ".test.".toList <:+: name.toList →
      (∀ name ∈ names, name.toList.head? ≠ some '_') → Accepts .page names

/-! ## The check -/

section Check

variable {names : List String}

/-- The extension of a path through names is one of a list that the last name has. -/
theorem extension_ofNames (areNames : ∀ name ∈ names, Path.IsName name) {extensions : List String}
    (none : "" ∉ extensions) :
    (Path.ofNames names).extension ∈ extensions ↔
      ∃ name ∈ names.getLast?, ∃ extension ∈ extensions, Path.HasExtension name extension := by
  rw [Path.extension, Path.extension?, Path.fileName?_ofNames areNames]
  cases names.getLast? with
  | none => simp [none]
  | some name =>
    simp only [Option.bind_some, Option.mem_def, Option.some.injEq, exists_eq_left',
      ← Path.cutExtension_eq_some]
    cases (Path.cutExtension name).2 with
    | none => simp [none]
    | some extension => simp

theorem isMarkdownExtension_ofNames (areNames : ∀ name ∈ names, Path.IsName name) :
    isMarkdownExtension (Path.ofNames names).extension = true ↔ NamesMarkdown names := by
  rw [isMarkdownExtension, decide_eq_true_eq, extension_ofNames areNames (by decide)]
  rfl

theorem isPrivate_ofNames (areNames : ∀ name ∈ names, Path.IsName name) :
    (!isPrivate (Path.ofNames names)) = true ↔ ∀ name ∈ names, name.toList.head? ≠ some '_' := by
  rw [isPrivate, Path.names_ofNames areNames, Bool.not_eq_true', List.any_eq_false]
  exact forall₂_congr fun name _ => by rw [beq_iff_eq]

/-- **A path is accepted exactly if its names are.** -/
theorem accepts_ofNames (areNames : ∀ name ∈ names, Path.IsName name) {kind : ContentKind} :
    kind.accepts (Path.ofNames names) = true ↔ kind.Accepts names := by
  cases kind with
  | static => exact ⟨fun _ => .static names, fun _ => rfl⟩
  | doc =>
    rw [accepts, Bool.and_eq_true, isMarkdownExtension_ofNames areNames, isPrivate_ofNames areNames]
    constructor
    · rintro ⟨markdown, noneHidden⟩
      exact .doc markdown noneHidden
    · intro accepted
      cases accepted with
      | doc markdown noneHidden => exact ⟨markdown, noneHidden⟩
  | page =>
    rw [accepts, Bool.and_eq_true, Bool.and_eq_true, List.contains_iff_mem,
      extension_ofNames areNames (by decide), isPrivate_ofNames areNames, Bool.not_eq_true',
      ← Bool.not_eq_true, Text.occursIn_iff, Path.fileName?_ofNames areNames]
    constructor
    · rintro ⟨⟨⟨name, last, extension, isPage, has⟩, noneHidden⟩, noTest⟩
      rw [Option.mem_def.mp last] at noTest
      exact .page last isPage has noTest noneHidden
    · intro accepted
      cases accepted with
      | page last isPage has noTest noneHidden =>
        refine ⟨⟨⟨_, last, _, isPage, has⟩, noneHidden⟩, ?_⟩
        rw [last]
        exact noTest

end Check

end ContentKind

end Docsite
