/-
**What a walk through a directory lists.**

A directory is walked depth first, and the entries of each directory come in the order of their names.
The walk lists every file below the directory once, and the files come in the order of the names that
lead to them, compared name by name.

* `Entry.Regular`: the entries of a file system without links.
* `Entry.mem_files`: the files that are listed.
* `Entry.pairwise_files`: their order.
-/

import Mathlib.Data.List.Lex
import Mathlib.Data.List.Sort
import Mathlib.Data.String.Basic
import Mathlib.Order.RelClasses
import Docsite.Storage.Disk
import Docsite.Proofs.Path.Names

namespace Docsite

/-! ## Regular entries -/

/-- A name that a directory can hold. -/
structure IsFileName (name : String) : Prop extends Path.IsName name where
  noNul : '\x00' ∉ name.toList
  short : name.utf8ByteSize ≤ Disk.nameLimit

instance (name : String) : Decidable (IsFileName name) :=
  decidable_of_iff
    ((name ≠ "" ∧ name ≠ "." ∧ name ≠ ".." ∧ '/' ∉ name.toList) ∧
      '\x00' ∉ name.toList ∧ name.utf8ByteSize ≤ Disk.nameLimit)
    ⟨fun ⟨⟨named, current, parent, slash⟩, nul, short⟩ =>
        ⟨⟨named, current, parent, slash⟩, nul, short⟩,
      fun ⟨⟨named, current, parent, slash⟩, nul, short⟩ =>
        ⟨⟨named, current, parent, slash⟩, nul, short⟩⟩

/-- Files, and directories that hold every name once and at each name again a file or such a
directory. -/
inductive Entry.Regular : Entry → Prop
  | file (content : FileContent) : Regular (.file content)
  | directory {entries : List (String × Entry)} : (entries.map Prod.fst).Nodup →
      (∀ pair ∈ entries, IsFileName pair.1) → (∀ pair ∈ entries, Regular pair.2) →
      Regular (.directory entries)

/-! ## Looking up names -/

section Lookup

variable {α : Type} {entries : List (String × α)} {name : String} {value : α}

theorem mem_of_lookup (found : entries.lookup name = some value) : (name, value) ∈ entries := by
  obtain ⟨before, after, shape, -⟩ := List.lookup_eq_some_iff.mp found
  rw [shape]
  exact List.mem_append_right before List.mem_cons_self

/-- Where every name occurs once, a name leads to each entry that has it. -/
theorem lookup_eq_some_of_mem (distinct : (entries.map Prod.fst).Nodup)
    (member : (name, value) ∈ entries) : entries.lookup name = some value := by
  induction entries with
  | nil => cases member
  | cons first rest ih =>
    obtain ⟨fresh, distinct⟩ := List.nodup_cons.mp distinct
    rcases List.mem_cons.mp member with rfl | member
    · rw [List.lookup_cons_self]
    · have other : (name == first.1) = false := by
        refine beq_eq_false_iff_ne.mpr ?_
        rintro rfl
        exact fresh (List.mem_map.mpr ⟨_, member, rfl⟩)
      rw [List.lookup_cons, other]
      exact ih distinct member

end Lookup

namespace Entry

/-- The names of a longer path lead on from where those of the shorter one lead. -/
theorem get?_append (entry : Entry) (front back : List String) :
    entry.get? (front ++ back) = (entry.get? front).bind (·.get? back) := by
  induction front generalizing entry with
  | nil => cases entry <;> rfl
  | cons name rest ih =>
    cases entry with
    | file content => rfl
    | directory entries =>
      rw [List.cons_append, get?, get?, Option.bind_assoc]
      exact congrArg _ (funext fun below => ih below)

/-- Whatever regular entries lead to is regular. -/
theorem Regular.get? {entry below : Entry} (regular : entry.Regular) {names : List String}
    (found : entry.get? names = some below) : below.Regular := by
  induction regular generalizing names with
  | file content =>
    cases names with
    | nil =>
      obtain rfl := Option.some.inj found
      exact .file content
    | cons name rest => cases found
  | @directory entries distinct areNames regular ih =>
    cases names with
    | nil =>
      obtain rfl := Option.some.inj found
      exact .directory distinct areNames regular
    | cons name rest =>
      obtain ⟨inner, looked, led⟩ := Option.bind_eq_some_iff.mp found
      exact ih (name, inner) (mem_of_lookup looked) led

/-- The names that lead through regular entries are names that directories can hold. -/
theorem Regular.isFileName {entry below : Entry} (regular : entry.Regular) {names : List String}
    (found : entry.get? names = some below) : ∀ name ∈ names, IsFileName name := by
  induction regular generalizing names with
  | file content =>
    cases names with
    | nil => exact fun name member => absurd member List.not_mem_nil
    | cons name rest => cases found
  | @directory entries distinct areNames regular ih =>
    cases names with
    | nil => exact fun name member => absurd member List.not_mem_nil
    | cons name rest =>
      obtain ⟨inner, looked, led⟩ := Option.bind_eq_some_iff.mp found
      have isEntry := mem_of_lookup looked
      intro other member
      rcases List.mem_cons.mp member with rfl | member
      · exact areNames (other, inner) isEntry
      · exact ih (name, inner) isEntry led other member

/-! ## Listings -/

theorem listing_ofEntries (entries : List (String × Entry)) :
    listing.ofEntries entries = entries.map fun (name, entry) => (name, listing entry) := by
  induction entries with
  | nil => rfl
  | cons first rest ih => rw [listing.ofEntries, ih, List.map_cons]

theorem files_ofEntries (entries : List (String × Listing)) :
    Listing.files.ofEntries entries = entries.map fun (name, entry) => (name, entry.files) := by
  induction entries with
  | nil => rfl
  | cons first rest ih => rw [Listing.files.ofEntries, ih, List.map_cons]

/-- The files below the entries of a directory, by the name of the entry. -/
def filesByName (entries : List (String × Entry)) : List (String × List (List String)) :=
  entries.map fun (name, entry) => (name, entry.listing.files)

/-- A directory lists the files below its entries, in the order of their names. -/
theorem files_directory (entries : List (String × Entry)) :
    (listing (.directory entries)).files =
      (Listing.inOrder (filesByName entries)).flatMap fun (name, files) => files.map (name :: ·) := by
  rw [listing, Listing.files, files_ofEntries, listing_ofEntries, List.map_map]
  rfl

/-- Each entry is put where sorting by insertion puts it. -/
theorem inOrder_eq {α : Type} (entries : List (String × α)) :
    Listing.inOrder entries = entries.insertionSort (·.1 ≤ ·.1) := by
  have inserts (entry : String × α) (sorted : List (String × α)) :
      Listing.insertByName entry sorted = sorted.orderedInsert (·.1 ≤ ·.1) entry := by
    induction sorted with
    | nil => rfl
    | cons first rest ih => rw [Listing.insertByName, ih, List.orderedInsert]
  rw [Listing.inOrder, List.insertionSort, funext fun entry => funext (inserts entry)]

theorem inOrder_perm {α : Type} (entries : List (String × α)) :
    (Listing.inOrder entries).Perm entries := by
  rw [inOrder_eq]
  exact List.perm_insertionSort _ entries

theorem mem_inOrder {α : Type} {entries : List (String × α)} {entry : String × α} :
    entry ∈ Listing.inOrder entries ↔ entry ∈ entries :=
  (inOrder_perm entries).mem_iff

theorem mem_files_directory {entries : List (String × Entry)} {names : List String} :
    names ∈ (listing (.directory entries)).files ↔
      ∃ name entry rest, (name, entry) ∈ entries ∧ rest ∈ entry.listing.files ∧
        names = name :: rest := by
  rw [files_directory, List.mem_flatMap]
  constructor
  · rintro ⟨⟨name, files⟩, isEntry, member⟩
    obtain ⟨⟨other, entry⟩, inEntries, same⟩ := List.mem_map.mp (mem_inOrder.mp isEntry)
    obtain ⟨rfl, rfl⟩ := Prod.mk.inj same
    obtain ⟨rest, inFiles, rfl⟩ := List.mem_map.mp member
    exact ⟨other, entry, rest, inEntries, inFiles, rfl⟩
  · rintro ⟨name, entry, rest, inEntries, inFiles, rfl⟩
    refine ⟨(name, entry.listing.files), mem_inOrder.mpr ?_, List.mem_map.mpr ⟨rest, inFiles, rfl⟩⟩
    exact List.mem_map.mpr ⟨(name, entry), inEntries, rfl⟩

/-- **A walk lists the names that lead to files, and no others.** -/
theorem Regular.mem_files {entry : Entry} (regular : entry.Regular) {names : List String} :
    names ∈ entry.listing.files ↔ ∃ content, entry.get? names = some (.file content) := by
  induction regular generalizing names with
  | file content =>
    rw [listing, Listing.files, List.mem_singleton]
    constructor
    · rintro rfl
      exact ⟨content, rfl⟩
    · rintro ⟨other, found⟩
      cases names with
      | nil => rfl
      | cons name rest => cases found
  | @directory entries distinct areNames regular ih =>
    rw [mem_files_directory]
    constructor
    · rintro ⟨name, entry, rest, inEntries, inFiles, rfl⟩
      obtain ⟨content, found⟩ := (ih (name, entry) inEntries).mp inFiles
      refine ⟨content, ?_⟩
      rw [Entry.get?, lookup_eq_some_of_mem distinct inEntries, Option.bind_some]
      exact found
    · rintro ⟨content, found⟩
      cases names with
      | nil => cases found
      | cons name rest =>
        obtain ⟨inner, looked, led⟩ := Option.bind_eq_some_iff.mp found
        have isEntry := mem_of_lookup looked
        exact ⟨name, inner, rest, isEntry, (ih (name, inner) isEntry).mpr ⟨content, led⟩, rfl⟩

/-! ## Order -/

/-- Entries with different names are put into strictly ascending order. -/
theorem pairwise_inOrder {α : Type} {entries : List (String × α)}
    (distinct : (entries.map Prod.fst).Nodup) :
    (Listing.inOrder entries).Pairwise (·.1 < ·.1) := by
  have ascending : (Listing.inOrder entries).Pairwise (·.1 ≤ ·.1) := by
    have total : Std.Total fun first second : String × α => first.1 ≤ second.1 :=
      ⟨fun first second => le_total first.1 second.1⟩
    have transitive : IsTrans (String × α) (·.1 ≤ ·.1) := ⟨fun _ _ _ => le_trans⟩
    rw [inOrder_eq]
    exact List.pairwise_insertionSort _ entries
  have different : (Listing.inOrder entries).Pairwise (·.1 ≠ ·.1) := by
    rw [← List.pairwise_map, ← List.nodup_iff_pairwise_ne]
    exact ((inOrder_perm entries).map Prod.fst).nodup_iff.mpr distinct
  refine (ascending.and different).imp ?_
  rintro first second ⟨lessOrEqual, notEqual⟩
  exact lt_of_le_of_ne lessOrEqual notEqual

/-- **The files that a walk lists are in strictly ascending order.** -/
theorem Regular.pairwise_files {entry : Entry} (regular : entry.Regular) :
    entry.listing.files.Pairwise (· < ·) := by
  induction regular with
  | file content =>
    rw [listing, Listing.files]
    exact List.pairwise_singleton _ _
  | @directory entries distinct areNames regular ih =>
    rw [files_directory, List.pairwise_flatMap]
    constructor
    -- Below one entry, the names that lead there differ behind the name of the entry.
    · rintro ⟨name, files⟩ isEntry
      obtain ⟨⟨other, entry⟩, inEntries, same⟩ := List.mem_map.mp (mem_inOrder.mp isEntry)
      obtain ⟨rfl, rfl⟩ := Prod.mk.inj same
      rw [List.pairwise_map]
      refine (ih (other, entry) inEntries).imp fun less => ?_
      exact List.cons_lt_cons_iff.mpr (.inr ⟨rfl, less⟩)
    -- Below different entries, the names of the entries decide.
    · have different : ((filesByName entries).map Prod.fst).Nodup := by
        rw [filesByName, List.map_map]
        exact distinct
      refine (pairwise_inOrder different).imp fun {first second} less => ?_
      intro names inFirst names' inSecond
      obtain ⟨rest, -, rfl⟩ := List.mem_map.mp inFirst
      obtain ⟨rest', -, rfl⟩ := List.mem_map.mp inSecond
      exact List.cons_lt_cons_iff.mpr (.inl less)

end Entry

end Docsite
