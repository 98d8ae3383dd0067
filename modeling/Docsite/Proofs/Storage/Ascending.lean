/-
**Disks in order.**

Every directory keeps its entries in the ascending order of their names. A file that is written and a
directory that is created are put where they belong, so a disk that is in order stays in order.

* `Entry.Ascending`: entries that are in order all the way down.
* `Disk.isFileName_of_locate`: paths lead to places below names that a directory can hold.
* `Disk.ascending_put`: what is put where a path leads keeps the order.
-/

import Docsite.Proofs.Path.Collapse
import Docsite.Proofs.Storage.Disk

namespace Docsite

/-! ## Entries in order -/

/-- Files, and directories that hold entries in the ascending order of their names and at each name again
a file or such a directory. -/
inductive Entry.Ascending : Entry → Prop
  | file (content : FileContent) : Ascending (.file content)
  | directory {entries : List (String × Entry)} : entries.Pairwise (·.1 < ·.1) →
      (∀ pair ∈ entries, IsFileName pair.1) → (∀ pair ∈ entries, Ascending pair.2) →
      Ascending (.directory entries)

namespace Entry

variable {entry new : Entry} {entries : List (String × Entry)} {name : String} {names : List String}

/-- Entries in order hold every name once. -/
theorem Ascending.regular (ascending : entry.Ascending) : entry.Regular := by
  induction ascending with
  | file content => exact .file content
  | @directory entries inOrder areNames _ ih =>
    refine .directory ?_ areNames ih
    rw [List.nodup_iff_pairwise_ne, List.pairwise_map]
    exact inOrder.imp fun less => ne_of_lt less

theorem mem_insertSorted {pair : String × Entry} (member : pair ∈ insertSorted name new entries) :
    pair = (name, new) ∨ pair ∈ entries := by
  induction entries with
  | nil => exact .inl (List.mem_singleton.mp member)
  | cons first rest ih =>
    obtain ⟨head, old⟩ := first
    rw [insertSorted] at member
    split at member
    · simpa using member
    split at member
    · rcases List.mem_cons.mp member with isNew | inRest
      · exact .inl isNew
      · exact .inr (List.mem_cons_of_mem _ inRest)
    · rcases List.mem_cons.mp member with isFirst | inserted
      · exact .inr (isFirst ▸ List.mem_cons_self)
      · exact (ih inserted).imp_right (List.mem_cons_of_mem _)

/-- An entry is inserted where it belongs. -/
theorem pairwise_insertSorted (inOrder : entries.Pairwise (·.1 < ·.1)) (name : String) (new : Entry) :
    (insertSorted name new entries).Pairwise (·.1 < ·.1) := by
  induction entries with
  | nil => exact List.pairwise_singleton _ _
  | cons first rest ih =>
    obtain ⟨head, old⟩ := first
    obtain ⟨isFirst, restInOrder⟩ := List.pairwise_cons.mp inOrder
    rw [insertSorted]
    split
    · next less =>
      refine List.pairwise_cons.mpr ⟨fun pair member => ?_, inOrder⟩
      rcases List.mem_cons.mp member with rfl | inRest
      · exact less
      · exact less.trans (isFirst pair inRest)
    split
    · next isHead => exact List.pairwise_cons.mpr ⟨isHead ▸ isFirst, restInOrder⟩
    · next notLess notHead =>
      have greater : head < name := lt_of_le_of_ne (not_lt.mp notLess) (Ne.symm notHead)
      refine List.pairwise_cons.mpr ⟨fun pair member => ?_, ih restInOrder⟩
      rcases mem_insertSorted member with rfl | inRest
      · exact greater
      · exact isFirst pair inRest

theorem Ascending.insertSorted (ascending : (Entry.directory entries).Ascending)
    (isName : IsFileName name) (newAscending : new.Ascending) :
    (Entry.directory (Entry.insertSorted name new entries)).Ascending := by
  cases ascending with
  | directory inOrder areNames below =>
    refine .directory (pairwise_insertSorted inOrder name new) (fun pair member => ?_)
      fun pair member => ?_
    · rcases mem_insertSorted member with rfl | old
      · exact isName
      · exact areNames pair old
    · rcases mem_insertSorted member with rfl | old
      · exact newAscending
      · exact below pair old

/-- **What is put below entries in order keeps the order.** -/
theorem Ascending.put (ascending : entry.Ascending) (areNames : ∀ name ∈ names, IsFileName name)
    (newAscending : new.Ascending) : (entry.put names new).Ascending := by
  fun_induction Entry.put entry names new with
  | case1 => exact newAscending
  | case2 _ _ content => exact .file content
  | case3 entries name => exact ascending.insertSorted (areNames _ List.mem_cons_self) newAscending
  | case4 entries name rest _ old looked ih =>
    have oldAscending : old.Ascending := by
      cases ascending with
      | directory _ _ below => exact below _ (mem_of_lookup looked)
    exact ascending.insertSorted (areNames _ List.mem_cons_self)
      (ih oldAscending fun other member => areNames other (List.mem_cons_of_mem _ member))
  | case5 => exact ascending

end Entry

/-! ## Places that paths lead to -/

/-- Splitting a text adds nothing to it. -/
theorem Text.subset_of_mem_splitOn {sep : Char} {cs piece : List Char}
    (isPiece : piece ∈ splitOn sep cs) : piece ⊆ cs := by
  fun_induction splitOn sep cs generalizing piece with
  | case1 => simp_all
  | case2 c rest isSep ih =>
    rcases List.mem_cons.mp isPiece with rfl | inRest
    · exact List.nil_subset _
    · exact List.subset_cons_of_subset c (ih inRest)
  | case3 c rest notSep nothing => exact absurd nothing (splitOn_ne_nil sep rest)
  | case4 c rest notSep first pieces pieced ih =>
    rw [pieced] at ih
    rcases List.mem_cons.mp isPiece with rfl | inRest
    · exact List.cons_subset_cons c (ih List.mem_cons_self)
    · exact List.subset_cons_of_subset c (ih (List.mem_cons_of_mem first inRest))

namespace Disk

variable {disk : Disk} {path : Path} {place next : List String} {piece : String} {new : Entry}

/-- A step leads below a name that a directory can hold. -/
theorem isFileName_of_step (areNames : ∀ name ∈ place, IsFileName name) (noSlash : '/' ∉ piece.toList)
    (noNul : '\x00' ∉ piece.toList) (stepped : disk.step place piece = .ok next) :
    ∀ name ∈ next, IsFileName name := by
  obtain ⟨-, leads⟩ := step_eq_ok.mp stepped
  cases leads with
  | stays => exact areNames
  | leaves => exact fun name member => areNames name (List.dropLast_subset place member)
  | enters notCurrent notParent short =>
    rw [not_or] at notCurrent
    have isName : IsFileName piece :=
      ⟨⟨notCurrent.1, notCurrent.2, notParent, noSlash⟩, noNul, short⟩
    intro name member
    rcases List.mem_append.mp member with inPlace | isPiece
    · exact areNames name inPlace
    · rw [List.mem_singleton.mp isPiece]
      exact isName

theorem isFileName_of_foldlM_step {pieces : List String} (areNames : ∀ name ∈ place, IsFileName name)
    (clean : ∀ piece ∈ pieces, '/' ∉ piece.toList ∧ '\x00' ∉ piece.toList)
    (followed : pieces.foldlM (step disk) place = .ok next) : ∀ name ∈ next, IsFileName name := by
  induction pieces generalizing place with
  | nil => exact Except.ok.inj followed ▸ areNames
  | cons piece pieces ih =>
    obtain ⟨inner, stepped, followed⟩ := foldlM_step_cons.mp followed
    have ⟨noSlash, noNul⟩ := clean piece List.mem_cons_self
    exact ih (isFileName_of_step areNames noSlash noNul stepped)
      (fun other member => clean other (List.mem_cons_of_mem piece member)) followed

/-- A path that leads anywhere starts in a directory. -/
theorem exists_directory_of_locate (located : disk.locate path = .ok place) :
    ∃ entries, disk.top.get? (disk.start path) = some (.directory entries) := by
  obtain ⟨-, -, -, followed⟩ := locate_eq_ok.mp located
  obtain ⟨first, rest, pieces⟩ := List.exists_cons_of_ne_nil path.pieces_ne_nil
  rw [pieces] at followed
  obtain ⟨inner, stepped, -⟩ := foldlM_step_cons.mp followed
  exact (step_eq_ok.mp stepped).1

/-- **A path leads to a place below names that a directory can hold.** -/
theorem isFileName_of_locate (ascending : disk.top.Ascending)
    (located : disk.locate path = .ok place) : ∀ name ∈ place, IsFileName name := by
  obtain ⟨entries, isDirectory⟩ := exists_directory_of_locate located
  obtain ⟨noNul, -, -, followed⟩ := locate_eq_ok.mp located
  refine isFileName_of_foldlM_step (ascending.regular.isFileName isDirectory)
    (fun piece isPiece => ?_) followed
  refine ⟨Path.noSlash_of_mem_pieces isPiece, fun nul => noNul ?_⟩
  obtain ⟨cs, isCut, rfl⟩ := List.mem_map.mp isPiece
  rw [String.toList_ofList] at nul
  exact Text.subset_of_mem_splitOn isCut nul

/-- **What is put where a path leads keeps a disk in order.** -/
theorem ascending_put (ascending : disk.top.Ascending) (located : disk.locate path = .ok place)
    (newAscending : new.Ascending) : (disk.top.put place new).Ascending :=
  ascending.put (isFileName_of_locate ascending located) newAscending

end Disk

end Docsite
