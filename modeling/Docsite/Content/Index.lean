/-
**The index of the files of a site.**

Files are found through their paths. The index keeps a position for every path; where several files
share a path, it keeps that of the last one.

* `SourceIndex.ofFiles`: the index of files that come one after the other.
* `SourceIndex.get?_insert`: keeping a position changes the answer for one path only.
-/

import Docsite.Content.File

namespace Docsite

/-- The positions of files in a list, by the paths of the files. -/
structure SourceIndex where
  entries : List (Path × Nat) := []
  deriving Repr

namespace SourceIndex

/-- The position that is kept for a path. -/
def get? (index : SourceIndex) (path : Path) : Option Nat :=
  index.entries.lookup path

/-- Keeps a position for a path, in place of the one that was kept for it before. -/
def insert (index : SourceIndex) (path : Path) (position : Nat) : SourceIndex :=
  ⟨(path, position) :: index.entries.filter (·.1 != path)⟩

/-- The index of files that come one after the other. -/
def ofFiles (files : List ContentFile) : SourceIndex :=
  files.zipIdx.foldl (fun index (file, position) => index.insert file.sitePath position) {}

/-- What is kept for other paths can be left out. -/
theorem lookup_filter {path other : Path} (different : other ≠ path) (entries : List (Path × Nat)) :
    (entries.filter (·.1 != path)).lookup other = entries.lookup other := by
  induction entries with
  | nil => rfl
  | cons entry rest ih =>
    obtain ⟨here, position⟩ := entry
    by_cases isPath : here = path
    · subst isPath
      have notHere : (other == here) = false := beq_eq_false_iff_ne.mpr different
      simp [List.lookup_cons, notHere, ih]
    · simp [List.lookup_cons, isPath, ih]

/-- Keeping a position changes the answer for one path only. -/
theorem get?_insert (index : SourceIndex) (path other : Path) (position : Nat) :
    (index.insert path position).get? other =
      if other = path then some position else index.get? other := by
  by_cases same : other = path
  · simp [insert, get?, same]
  · have notPath : (other == path) = false := beq_eq_false_iff_ne.mpr same
    simp [insert, get?, List.lookup_cons, notPath, same, lookup_filter same]

end SourceIndex

end Docsite
