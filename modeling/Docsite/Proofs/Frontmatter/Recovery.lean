/-
**Frontmatter that is put in front of a body is taken off again.**

The white space in front of the block and the marks around it leave no trace, and neither does any mark in
the body: what is left is exactly the body, and the block is read as YAML unless it is blank.

* `Frontmatter.ofYaml?`: what the YAML of a block says.
* `Frontmatter.Recovered`: what a page with a block in front comes to.
* `Frontmatter.split_recovers`: every block without a mark, in front of every body that starts with text.
-/

import Docsite.Proofs.Frontmatter.Framed

namespace Docsite.Frontmatter

/-- The frontmatter that the YAML of a block spells. -/
def ofYaml? (block : String) : Option Frontmatter := do
  let document ← Yaml.Document.read? block
  ofValue? (Yaml.dialect document) document.root

/-- **What a page with a block in front of a body comes to.** -/
structure Recovered (block body page : String) : Prop where
  /-- The end of the block is found. -/
  closed : split page ≠ .error .unclosed
  /-- A blank block says nothing. -/
  blank : Text.isBlankText block = true → split page = .ok (some {}, body)
  /-- Any other block is read, without the white space around it. -/
  read : Text.isBlankText block = false → ∀ frontmatter,
    split page = .ok (some frontmatter, body) ↔ ofYaml? (Text.trim block) = some frontmatter
  /-- The only other outcome is that the block is no YAML of frontmatter. -/
  rejected : split page = .error .invalidYaml ↔
    Text.isBlankText block = false ∧ ofYaml? (Text.trim block) = none

section Blocks

variable {space block body : String}

theorem ofBlock?_of_blank (isBlank : Text.isBlankText block = true) :
    ofBlock? (Text.trim block) = some {} := by
  rw [ofBlock?, Text.trim_eq_empty_iff.mpr isBlank]
  rfl

theorem ofBlock?_of_not_blank (notBlank : Text.isBlankText block = false) :
    ofBlock? (Text.trim block) = ofYaml? (Text.trim block) := by
  have some : ¬ (Text.trim block == "") = true := by
    simp [Text.trim_eq_empty_iff, notBlank]
  rw [ofBlock?, if_neg some]
  rfl

theorem trimStart_of_starts (starts : ∀ c ∈ body.toList.head?, Text.isBlank c = false) :
    Text.trimStart body = body := by
  rw [Text.trimStart, Text.dropWhile_eq_self starts, String.ofList_toList]

/-- **Splitting a page undoes its framing.** White space, a block between two marks and a body that does
not start with white space are split into what the block says and exactly the body, as long as no line of
the block starts with the mark; marks in the body do not matter. A page that does not start with the mark
is left as it is. -/
theorem split_recovers (isSpace : Text.isBlankText space = true) (unmarked : IsUnmarked block)
    (starts : ∀ c ∈ body.toList.head?, Text.isBlank c = false) :
    Recovered block body (space ++ front block ++ body) ∧
      ∀ source, (∀ opened, ¬ Opens source opened) → split source = .ok (none, source) := by
  refine ⟨?_, fun source => split_of_absent⟩
  have splits := split_front space body isSpace unmarked
  rw [trimStart_of_starts starts] at splits
  by_cases isBlank : Text.isBlankText block = true
  · rw [ofBlock?_of_blank isBlank] at splits
    exact {
      closed := by simp [splits]
      blank := fun _ => splits
      read := by simp [isBlank]
      rejected := by simp [splits, isBlank] }
  · have notBlank := Bool.eq_false_iff.mpr isBlank
    rw [ofBlock?_of_not_blank notBlank] at splits
    cases reads : ofYaml? (Text.trim block) with
    | none =>
      rw [reads] at splits
      exact {
        closed := by simp [splits]
        blank := by simp [notBlank]
        read := by simp [splits, reads]
        rejected := by simp [splits, notBlank, reads] }
    | some frontmatter =>
      rw [reads] at splits
      exact {
        closed := by simp [splits]
        blank := by simp [notBlank]
        read := by simp [splits, reads]
        rejected := by simp [splits, reads] }

/-- Dashes in a value, on a line that is indented and in the body are not taken for the mark, and a page
whose first text is a heading is left as it is. -/
theorem split_recovers_dashes :
    IsUnmarked "title: a --- b\n --- c" ∧
      split (" \n" ++ front "title: a --- b\n --- c" ++ "---\nid: x\n---\n") =
        .ok (some { title := some "a --- b --- c" }, "---\nid: x\n---\n") ∧
      (∀ opened, ¬ Opens " # ---\n---\n" opened) ∧
      split " # ---\n---\n" = .ok (none, " # ---\n---\n") := by
  have unmarked : IsUnmarked "title: a --- b\n --- c" := by decide +kernel
  have absent : ∀ opened, ¬ Opens " # ---\n---\n" opened :=
    forall_not_opens_iff.mpr (by decide +kernel)
  have reads : ofYaml? (Text.trim "title: a --- b\n --- c") =
      some { title := some "a --- b --- c" } := by
    decide +kernel
  have isSpace : Text.isBlankText " \n" = true := by decide +kernel
  have first : "---\nid: x\n---\n".toList.head? = some '-' := by decide +kernel
  have starts : ∀ c ∈ "---\nid: x\n---\n".toList.head?, Text.isBlank c = false := by
    rw [first]
    rintro c ⟨⟩
    rfl
  obtain ⟨recovered, others⟩ := split_recovers isSpace unmarked starts
  exact ⟨unmarked, (recovered.read (by decide +kernel) _).mpr reads, absent, others _ absent⟩

end Blocks

end Docsite.Frontmatter
