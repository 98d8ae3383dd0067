/-
**Paths that are resolved by their spelling.**

What is left of a path when `.`, `..` and the leading slash are resolved is a path through names. Such a
path has nothing to resolve any more, so resolving a path again changes nothing.

* `Path.isName_of_mem_collapseNames`: what is left of a path are names.
* `Path.collapse_ofNames`: a path through names is resolved already.
* `Path.collapse_collapse`: resolving twice is resolving once.
-/

import Docsite.Proofs.Path.Names

namespace Docsite.Path

variable {p : Path} {piece name : String} {names kept : List String}

/-! ## Names among the components -/

/-- A piece lies between two slashes. -/
theorem noSlash_of_mem_pieces (member : piece ∈ p.pieces) : '/' ∉ piece.toList := by
  obtain ⟨cs, isPiece, rfl⟩ := List.mem_map.mp member
  rw [String.toList_ofList]
  exact Text.sep_notMem_of_mem_splitOn isPiece

/-- A piece that counts as a name is that name, and it is none of the pieces that mean something
else. -/
theorem isName_of_componentOf? (noSlash : '/' ∉ piece.toList)
    (counts : componentOf? piece = some (.name name)) : IsName name := by
  unfold componentOf? at counts
  split at counts
  · cases counts
  · next nonempty =>
    split at counts
    · cases counts
    · next notParent =>
      obtain rfl := Component.name.inj (Option.some.inj counts)
      simp only [Bool.or_eq_true, beq_iff_eq, not_or] at nonempty notParent
      exact ⟨nonempty.1, nonempty.2, notParent, noSlash⟩

theorem isName_of_firstComponent? {absolute : Bool} (noSlash : '/' ∉ piece.toList)
    (counts : firstComponent? absolute piece = some (.name name)) : IsName name := by
  unfold firstComponent? at counts
  split at counts
  · cases counts
  · split at counts
    · cases counts
    · exact isName_of_componentOf? noSlash counts

/-- **The names among the components of a path are names.** -/
theorem isName_of_mem_components (member : Component.name name ∈ p.components) : IsName name := by
  unfold components at member
  split at member
  · cases member
  · next first rest pieces =>
    have noSlash : ∀ piece ∈ first :: rest, '/' ∉ piece.toList := fun piece isPiece =>
      noSlash_of_mem_pieces (pieces ▸ isPiece)
    rcases List.mem_append.mp member with isFirst | isLater
    · exact isName_of_firstComponent? (noSlash first List.mem_cons_self)
        (Option.mem_toList.mp isFirst)
    · obtain ⟨piece, isPiece, counts⟩ := List.mem_filterMap.mp isLater
      exact isName_of_componentOf? (noSlash piece (List.mem_cons_of_mem first isPiece)) counts

/-! ## Following a path -/

/-- Whatever is kept after some steps was kept before or is a name among the steps. -/
theorem mem_foldl_follow {steps : List Component} (member : name ∈ steps.foldl follow kept) :
    name ∈ kept ∨ .name name ∈ steps := by
  induction steps generalizing kept with
  | nil => exact .inl member
  | cons step steps ih =>
    rcases ih member with before | later
    · cases step with
      | name text =>
        rcases List.mem_append.mp before with before | isText
        · exact .inl before
        · obtain rfl := List.mem_singleton.mp isText
          exact .inr List.mem_cons_self
      | parent => exact .inl (List.dropLast_subset kept before)
      | root => exact .inl before
      | current => exact .inl before
    · exact .inr (List.mem_cons_of_mem step later)

/-- **What is left of a path are names.** -/
theorem isName_of_mem_collapseNames (member : name ∈ p.collapseNames) : IsName name := by
  rcases mem_foldl_follow member with impossible | isStep
  · cases impossible
  · exact isName_of_mem_components isStep

/-- Names that are followed are all kept. -/
theorem foldl_follow_names (names kept : List String) :
    (names.map Component.name).foldl follow kept = kept ++ names := by
  induction names generalizing kept with
  | nil => simp
  | cons name names ih => simp [follow, ih]

/-! ## Resolving -/

theorem collapseNames_ofNames (areNames : ∀ name ∈ names, IsName name) :
    (ofNames names).collapseNames = names := by
  rw [collapseNames, components_ofNames areNames, foldl_follow_names, List.nil_append]

/-- **A path through names is resolved already.** -/
theorem collapse_ofNames (areNames : ∀ name ∈ names, IsName name) :
    (ofNames names).collapse = ofNames names :=
  congrArg ofNames (collapseNames_ofNames areNames)

/-- **Resolving twice is resolving once.** -/
theorem collapse_collapse (p : Path) : p.collapse.collapse = p.collapse :=
  collapse_ofNames fun _ member => isName_of_mem_collapseNames member

end Docsite.Path
