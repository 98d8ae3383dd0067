/-
**What a site serves and where its files are found.**

The routes of a site are kept in a table and its files are found through their paths. Both are said
here of the files themselves.

* `ContentTree.contains_routes`: a path leads to a route exactly if a published file is served there.
* `SourceIndex.exists_of_get?`: the index points to files that have the paths it keeps.
* `ContentTree.source?_eq_some`, `source?_eq_none`: the file at a path is the last one with it.
-/

import Mathlib.Data.List.Induction
import Docsite.Content.Tree
import Docsite.Proofs.Route.Membership

namespace Docsite

/-! ## The index -/

namespace SourceIndex

variable {files : List ContentFile} {path : Path} {position : Nat}

/-- One more file takes its path over and leaves the other paths as they were. -/
theorem get?_ofFiles_concat (files : List ContentFile) (last : ContentFile) (path : Path) :
    (ofFiles (files ++ [last])).get? path =
      if path = last.sitePath then some files.length else (ofFiles files).get? path := by
  rw [ofFiles, List.zipIdx_append, List.foldl_append, Nat.zero_add]
  exact get?_insert (ofFiles files) last.sitePath path files.length

/-- **The index points to files that have the paths it keeps.** -/
theorem exists_of_get? (kept : (ofFiles files).get? path = some position) :
    ∃ file, files[position]? = some file ∧ file.sitePath = path := by
  induction files using List.reverseRecOn with
  | nil => cases kept
  | append_singleton files last ih =>
    rw [get?_ofFiles_concat] at kept
    split at kept
    · next isLast =>
      obtain rfl := Option.some.inj kept
      exact ⟨last, by simp, isLast.symm⟩
    · obtain ⟨file, isHere, hasPath⟩ := ih kept
      have inside := (List.getElem?_eq_some_iff.mp isHere).1
      exact ⟨file, by rw [List.getElem?_append_left inside, isHere], hasPath⟩

/-- The file that the index points to is the first one with the path, read backwards. -/
theorem get?_bind_eq_find? (files : List ContentFile) (path : Path) :
    ((ofFiles files).get? path).bind (fun position => files[position]?) =
      files.reverse.find? (·.sitePath == path) := by
  induction files using List.reverseRecOn with
  | nil => rfl
  | append_singleton files last ih =>
    rw [get?_ofFiles_concat, List.reverse_append, List.reverse_singleton, List.singleton_append,
      List.find?_cons]
    by_cases isLast : path = last.sitePath
    · simp [isLast]
    · have notLast : (last.sitePath == path) = false := beq_eq_false_iff_ne.mpr (Ne.symm isLast)
      rw [if_neg isLast, notLast, ← ih]
      cases kept : (ofFiles files).get? path with
      | none => rfl
      | some position =>
        obtain ⟨file, isHere, -⟩ := exists_of_get? kept
        have inside := (List.getElem?_eq_some_iff.mp isHere).1
        rw [Option.bind_some, Option.bind_some, List.getElem?_append_left inside]

end SourceIndex

namespace ContentTree

variable {tree : ContentTree} {path : Path} {file : ContentFile}

/-! ## Routes -/

/-- Some published file is served at a path, however the path is spelled. -/
def Serves (tree : ContentTree) (path : String) : Prop :=
  ∃ file ∈ tree.files, ∃ route, file.route = some route ∧
    Route.normalize route = Route.normalize path

/-- **The table of routes answers for the files.** -/
theorem contains_routes {path : String} :
    tree.routes.contains path = true ↔ tree.Serves path := by
  rw [tree.routes_eq, Route.Table.contains_ofList]
  constructor
  · rintro ⟨route, member, same⟩
    obtain ⟨file, fileMember, published⟩ := List.mem_filterMap.mp member
    exact ⟨file, fileMember, route, published, same⟩
  · rintro ⟨file, fileMember, route, published, same⟩
    exact ⟨route, List.mem_filterMap.mpr ⟨file, fileMember, published⟩, same⟩

/-! ## Files -/

/-- A file is the one at a path of a site: it has that path, and no later file has it too. -/
def FileAt (tree : ContentTree) (path : Path) (file : ContentFile) : Prop :=
  ∃ before after, tree.files = before ++ file :: after ∧ file.sitePath = path.collapse ∧
    ∀ other ∈ after, other.sitePath ≠ path.collapse

/-- Some file of a site has a path, however the path is spelled. -/
def Holds (tree : ContentTree) (path : Path) : Prop :=
  ∃ file ∈ tree.files, file.sitePath = path.collapse

/-- The file at a path is the first one with it, read backwards. -/
theorem source?_eq_find? (tree : ContentTree) (path : Path) :
    tree.source? path = tree.files.reverse.find? (·.sitePath == path.collapse) := by
  rw [source?, tree.index_eq, SourceIndex.get?_bind_eq_find?]

/-- **A path leads to the last file that has it.** -/
theorem source?_eq_some : tree.source? path = some file ↔ tree.FileAt path file := by
  rw [source?_eq_find?, List.find?_eq_some_iff_append]
  constructor
  · rintro ⟨isHere, reversedAfter, reversedBefore, shape, others⟩
    refine ⟨reversedBefore.reverse, reversedAfter.reverse, ?_, by simpa using isHere, ?_⟩
    · rw [← List.reverse_reverse tree.files, shape]
      simp
    · intro other member
      simpa using others other (List.mem_reverse.mp member)
  · rintro ⟨before, after, shape, isHere, others⟩
    refine ⟨by simpa using isHere, after.reverse, before.reverse, ?_, ?_⟩
    · rw [shape]
      simp
    · intro other member
      simpa using others other (List.mem_reverse.mp member)

/-- **A path leads nowhere exactly if no file has it.** -/
theorem source?_eq_none : tree.source? path = none ↔ ¬ tree.Holds path := by
  rw [source?_eq_find?, List.find?_eq_none]
  constructor
  · rintro nowhere ⟨file, member, isHere⟩
    exact nowhere file (List.mem_reverse.mpr member) (by simpa using isHere)
  · intro nowhere file member isHere
    exact nowhere ⟨file, List.mem_reverse.mp member, by simpa using isHere⟩

end ContentTree

end Docsite
