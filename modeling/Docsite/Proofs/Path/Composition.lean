/-
**Paths below paths are resolved step by step.**

A relative path below another one goes on where the other one leads. It makes no difference whether the
other one is resolved first, although a `..` cannot be taken back where nothing is left to remove.

* `Path.components_join`: what a path below another one consists of.
* `Path.collapseNames_join`: it goes on with the names that the other one leaves.
* `Path.collapse_join`: the other path may be resolved first.
-/

import Docsite.Proofs.Path.Parent

namespace Docsite.Path

variable {base below : Path}

/-! ## Components -/

/-- **A relative path below another one has the components of both**; a `.` that opens it does not
count. -/
theorem components_join (relative : below.isAbsolute = false) (named : base.text ≠ "") :
    (base.join below).components = base.components ++ below.pieces.filterMap componentOf? := by
  rw [components_eq, components_eq base, isAbsolute_join relative named]
  rcases pieces_join relative named with ⟨front, spelled, pieced⟩ | pieced
  · have closed : base.pieces = pieces ⟨front⟩ ++ [""] := by
      have cut := pieces_append_slash front ""
      rwa [String.append_empty, ← spelled] at cut
    -- The empty piece behind a slash at the end is no component.
    rw [pieced, closed, componentsOf_append (pieces_ne_nil _), componentsOf_append (pieces_ne_nil _)]
    exact congrArg (· ++ _) (List.append_nil _).symm
  · rw [pieced, componentsOf_append (pieces_ne_nil _)]

/-! ## Names -/

/-- A `.` that opens a relative path leads nowhere. -/
theorem foldl_follow_componentsOf (kept pieces : List String) :
    (componentsOf false pieces).foldl follow kept =
      (pieces.filterMap componentOf?).foldl follow kept := by
  cases pieces with
  | nil => rfl
  | cons first rest =>
    by_cases current : first = "."
    · subst current
      rfl
    · have same : firstComponent? false first = componentOf? first := by
        rw [firstComponent?, if_neg Bool.false_ne_true, if_neg (by simpa using current)]
      rw [componentsOf, same, List.filterMap_cons]
      cases componentOf? first <;> rfl

/-- **A relative path goes on with the names that the other one leaves.** -/
theorem collapseNames_join (relative : below.isAbsolute = false) :
    (base.join below).collapseNames = below.components.foldl follow base.collapseNames := by
  by_cases named : base.text = ""
  · obtain rfl : base = ⟨""⟩ := congrArg Path.mk named
    have alone : join ⟨""⟩ below = below := by
      rw [join, if_neg (by rw [relative]; exact Bool.false_ne_true)]
      exact congrArg Path.mk String.empty_append
    rw [alone]
    rfl
  · rw [collapseNames, components_join relative named, List.foldl_append, ← foldl_follow_componentsOf,
      ← relative, ← components_eq]
    rfl

theorem collapseNames_collapse (p : Path) : p.collapse.collapseNames = p.collapseNames :=
  collapseNames_ofNames fun _ => isName_of_mem_collapseNames

/-- **A path may be resolved before a relative path is put below it.** -/
theorem collapse_join (relative : below.isAbsolute = false) (base : Path) :
    (base.join below).collapse = (base.collapse.join below).collapse := by
  rw [collapse, collapse, collapseNames_join relative, collapseNames_join relative,
    collapseNames_collapse]

end Docsite.Path
