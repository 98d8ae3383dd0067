/-
**How frontmatter is told from a page.**

The block of frontmatter stands between two marks. The first one is at the front of the page, behind
white space only, and the second one starts the first line that it can start.

* `Frontmatter.Opens`: the front of a page with a block.
* `Frontmatter.wellFormed_iff`: the pages that can be split.
* `Frontmatter.suffix_of_split`: what is left of a page.
-/

import Docsite.Frontmatter.Reader
import Docsite.Proofs.Text.Cut
import Docsite.Proofs.Text.Trim

namespace Docsite.Frontmatter

open Text (FirstAt)

/-- The mark stands at the front of a page, behind white space only. -/
def Opens (source : String) (opened : List Char) : Prop :=
  ∃ space, (∀ c ∈ space, Text.isBlank c = true) ∧ source.toList = space ++ mark ++ opened

/-- **A page is well formed** if it has no block, or if its block has an end and can be read. -/
inductive WellFormed (source : String) : Prop
  | absent : (∀ opened, ¬ Opens source opened) → WellFormed source
  | block {opened block rest : List Char} {frontmatter : Frontmatter} : Opens source opened →
      FirstAt ('\n' :: mark) opened block rest →
      ofBlock? (Text.trim (String.ofList block)) = some frontmatter → WellFormed source

section Splitting

variable {source : String} {opened : List Char}

theorem opens_iff :
    Opens source opened ↔ Text.dropFront? mark (Text.trimStart source).toList = some opened := by
  rw [Text.dropFront?_eq_some, Text.trimStart, String.toList_ofList, mark, List.cons_append,
    Text.dropWhile_eq_cons_iff (by decide)]
  simp only [Opens, mark, List.append_assoc, List.cons_append]

theorem forall_not_opens_iff :
    (∀ opened, ¬ Opens source opened) ↔
      Text.dropFront? mark (Text.trimStart source).toList = none := by
  simp only [opens_iff, Option.eq_none_iff_forall_ne_some, ne_eq]

/-- A page without a block is left as it is. -/
theorem split_of_absent (absent : ∀ opened, ¬ Opens source opened) :
    split source = .ok (none, source) := by
  rw [split, forall_not_opens_iff.mp absent]

/-- **A page can be split exactly if it is well formed.** -/
theorem wellFormed_iff : WellFormed source ↔ ∃ page, split source = .ok page := by
  constructor
  · intro wellFormed
    cases wellFormed with
    | absent unopened => exact ⟨_, split_of_absent unopened⟩
    | block opens ends reads =>
      simp only [split, opens_iff.mp opens, Text.cutAt?_eq_some.mpr ends, reads]
      exact ⟨_, rfl⟩
  · rintro ⟨page, splits⟩
    rw [split] at splits
    cases front : Text.dropFront? mark (Text.trimStart source).toList with
    | none => exact .absent (forall_not_opens_iff.mpr front)
    | some opened =>
      cases ends : Text.cutAt? ('\n' :: mark) opened with
      | none =>
        simp only [front, ends] at splits
        cases splits
      | some parts =>
        obtain ⟨block, rest⟩ := parts
        cases reads : ofBlock? (Text.trim (String.ofList block)) with
        | none =>
          simp only [front, ends, reads] at splits
          cases splits
        | some frontmatter =>
          exact .block (opens_iff.mpr front) (Text.cutAt?_eq_some.mp ends) reads

/-- **What is left of a page is its end.** -/
theorem suffix_of_split {body : String} {frontmatter : Option Frontmatter}
    (splits : split source = .ok (frontmatter, body)) : body.toList <:+ source.toList := by
  have trimmed (text : String) : (Text.trimStart text).toList <:+ text.toList := by
    rw [Text.trimStart, String.toList_ofList]
    exact List.dropWhile_suffix Text.isBlank
  unfold split at splits
  split at splits
  · cases splits
    exact List.suffix_rfl
  · next opened front =>
    split at splits
    · cases splits
    · next block rest ends =>
      split at splits
      · cases splits
      · cases splits
        have behindMark := Text.dropFront?_eq_some.mp front
        obtain ⟨behindBlock, -⟩ := Text.cutAt?_eq_some.mp ends
        calc (Text.trimStart (String.ofList rest)).toList
          _ <:+ (String.ofList rest).toList := trimmed (String.ofList rest)
          _ = rest := String.toList_ofList
          _ <:+ opened := behindBlock ▸ List.suffix_append _ rest
          _ <:+ (Text.trimStart source).toList := behindMark ▸ List.suffix_append mark opened
          _ <:+ source.toList := trimmed source

end Splitting

end Docsite.Frontmatter
