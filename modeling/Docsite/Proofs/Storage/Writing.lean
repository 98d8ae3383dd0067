/-
**Writing on a disk.**

A file that is written, or a directory that is created, stands at its place afterwards, and whatever stands
at any other place is as it was. A refusal changes nothing, and creating directories changes no file.

* `Entry.spot?`: what stands at a place, without what is below it.
* `Entry.spot?_put`: what stands where after something is put at a place.
* `Disk.writeText_eq_ok`: a file that is written.
* `Disk.spares_createDirectories`: directories that are created.
-/

import Docsite.Proofs.Storage.Ascending

namespace Docsite

/-! ## What stands at a place -/

/-- What stands at a place: a file with what it holds, or a directory with whatever is in it. -/
inductive Spot where
  | file (content : FileContent)
  | directory
  deriving DecidableEq, Repr

namespace Entry

/-- What an entry is. -/
def spot : Entry → Spot
  | .file content => .file content
  | .directory _ => .directory

/-- What stands at the place that names lead to. -/
def spot? (entry : Entry) (names : List String) : Option Spot :=
  (entry.get? names).map spot

variable {entry new : Entry} {entries : List (String × Entry)} {name : String} {names : List String}

@[simp] theorem spot?_nil : entry.spot? [] = some entry.spot := by
  cases entry <;> rfl

@[simp] theorem spot?_file_cons {content : FileContent} : (file content).spot? (name :: names) = none :=
  rfl

@[simp] theorem spot?_directory_cons : (directory entries).spot? (name :: names) =
    (entries.lookup name).bind (spot? · names) := by
  rw [spot?, get?]
  cases entries.lookup name <;> rfl

theorem spot?_eq_none : entry.spot? names = none ↔ entry.get? names = none :=
  Option.map_eq_none_iff

theorem spot?_eq_file {content : FileContent} :
    entry.spot? names = some (.file content) ↔ entry.get? names = some (.file content) := by
  rw [spot?, Option.map_eq_some_iff]
  constructor
  · rintro ⟨below, found, isFile⟩
    cases below with
    | file other =>
      cases isFile
      exact found
    | directory entries => cases isFile
  · intro found
    exact ⟨_, found, rfl⟩

theorem spot?_eq_directory :
    entry.spot? names = some .directory ↔ ∃ entries, entry.get? names = some (.directory entries) := by
  rw [spot?, Option.map_eq_some_iff]
  constructor
  · rintro ⟨below, found, isDirectory⟩
    cases below with
    | file other => cases isDirectory
    | directory entries => exact ⟨entries, found⟩
  · rintro ⟨entries, found⟩
    exact ⟨_, found, rfl⟩

/-- Whatever stands below a place stands in a directory. -/
theorem spot?_of_append {more : List String} (found : entry.spot? (names ++ name :: more) ≠ none) :
    entry.spot? names = some .directory := by
  rw [ne_eq, spot?_eq_none, get?_append] at found
  cases here : entry.get? names with
  | none => exact absurd (by rw [here]; rfl) found
  | some below =>
    cases below with
    | file content => exact absurd (by rw [here]; rfl) found
    | directory entries => exact spot?_eq_directory.mpr ⟨entries, here⟩

/-! ## Putting an entry at a place -/

theorem lookup_cons_if (head other : String) (first : Entry) (rest : List (String × Entry)) :
    ((head, first) :: rest).lookup other = if other = head then some first else rest.lookup other := by
  by_cases isHead : other = head
  · rw [if_pos isHead, isHead, List.lookup_cons_self]
  · rw [if_neg isHead, List.lookup_cons, beq_eq_false_iff_ne.mpr isHead]

/-- **An entry is found under its name, and every other name leads where it led.** -/
theorem lookup_insertSorted (name other : String) (new : Entry) (entries : List (String × Entry)) :
    (insertSorted name new entries).lookup other =
      if other = name then some new else entries.lookup other := by
  induction entries with
  | nil => rw [insertSorted, lookup_cons_if]
  | cons first rest ih =>
    obtain ⟨head, old⟩ := first
    rw [insertSorted]
    split
    · rw [lookup_cons_if]
    split
    · next isHead =>
      rw [lookup_cons_if, lookup_cons_if, ← isHead]
      by_cases isName : other = name
      · rw [if_pos isName, if_pos isName]
      · rw [if_neg isName, if_neg isName, if_neg isName]
    · next notHead =>
      rw [lookup_cons_if, lookup_cons_if, ih]
      by_cases isHead : other = head
      · rw [if_pos isHead, if_pos isHead, if_neg fun isName => notHead (isName.symm.trans isHead)]
      · rw [if_neg isHead, if_neg isHead]

/-- An entry with nothing below it. -/
def IsBare (entry : Entry) : Prop :=
  ∀ name names, entry.spot? (name :: names) = none

theorem isBare_file (content : FileContent) : (file content).IsBare :=
  fun _ _ => rfl

theorem isBare_emptyDirectory : (directory []).IsBare :=
  fun _ _ => rfl

/-- **What is put into a directory stands there, and whatever stands elsewhere stays**, as long as it takes
the place of no directory. -/
theorem spot?_put (bare : new.IsBare) {front : List String} {name : String}
    (inDirectory : entry.spot? front = some .directory)
    (noDirectory : entry.spot? (front ++ [name]) ≠ some .directory) (other : List String) :
    (entry.put (front ++ [name]) new).spot? other =
      if other = front ++ [name] then some new.spot else entry.spot? other := by
  induction front generalizing entry other with
  | nil =>
    cases entry with
    | file content => cases inDirectory
    | directory entries =>
      rw [List.nil_append, put]
      cases other with
      | nil => simp [spot]
      | cons head rest =>
        rw [spot?_directory_cons, lookup_insertSorted]
        by_cases isName : head = name
        · subst isName
          cases rest with
          | nil => simp
          | cons second rest =>
            have nothing : (directory entries).spot? (head :: second :: rest) = none := by
              by_contra found
              exact noDirectory (@spot?_of_append _ _ [head] _ found)
            simp [bare second rest, nothing]
        · simp [isName]
  | cons step front ih =>
    cases entry with
    | file content => cases inDirectory
    | directory entries =>
      rw [List.cons_append, spot?_directory_cons] at noDirectory
      rw [spot?_directory_cons] at inDirectory
      obtain ⟨below, looked, inBelow⟩ := Option.bind_eq_some_iff.mp inDirectory
      rw [looked, Option.bind_some] at noDirectory
      have placed := ih inBelow noDirectory
      obtain ⟨second, more, split⟩ := List.exists_cons_of_ne_nil (List.concat_ne_nil name front)
      rw [split] at placed
      rw [List.cons_append, split, put, looked]
      · cases other with
        | nil => simp [spot]
        | cons head rest =>
          rw [spot?_directory_cons, spot?_directory_cons, lookup_insertSorted]
          by_cases isStep : head = step
          · subst isStep
            rw [if_pos rfl, looked, Option.bind_some, Option.bind_some, placed]
            simp
          · simp [isStep]
      · exact List.cons_ne_nil second more

end Entry

namespace Disk

variable {disk before middle after : Disk} {path : Path} {place : List String}

/-- What stands at a place of a disk. -/
def spot? (disk : Disk) (names : List String) : Option Spot :=
  disk.top.spot? names

/-- One disk has the working directory of another one and all of its directories, so paths that lead
somewhere on the other one lead there on it, too. -/
structure KeepsDirectories (before after : Disk) : Prop where
  workingDirectory : after.workingDirectory = before.workingDirectory
  stay : ∀ names, before.spot? names = some .directory → after.spot? names = some .directory

/-- One disk holds the same files as another one, with the same content. -/
def SameFiles (before after : Disk) : Prop :=
  ∀ names content, after.spot? names = some (.file content) ↔ before.spot? names = some (.file content)

/-! ## Where paths lead -/

theorem isDirectory_of_step {piece : String} {next : List String}
    (stepped : disk.step place piece = .ok next) : disk.spot? place = some .directory :=
  Entry.spot?_eq_directory.mpr (step_eq_ok.mp stepped).1

/-- A directory stands in a directory, unless it is the top. -/
theorem isDirectory_dropLast (isDirectory : disk.spot? place = some .directory) :
    disk.spot? place.dropLast = some .directory := by
  rcases List.eq_nil_or_concat place with rfl | ⟨front, name, rfl⟩
  · exact isDirectory
  · rw [List.concat_eq_append] at isDirectory ⊢
    rw [List.dropLast_concat]
    have found : disk.top.spot? (front ++ name :: []) ≠ none := by
      rw [← spot?, isDirectory]
      exact Option.some_ne_none _
    exact Entry.spot?_of_append found

/-- A step depends only on whether it starts from a directory. -/
theorem step_congr (here : before.spot? place = some .directory)
    (there : after.spot? place = some .directory) (piece : String) :
    before.step place piece = after.step place piece := by
  obtain ⟨entries, isHere⟩ := Entry.spot?_eq_directory.mp here
  obtain ⟨others, isThere⟩ := Entry.spot?_eq_directory.mp there
  rw [step, step, isHere, isThere]

theorem foldlM_step_keeps (keeps : before.KeepsDirectories after) {pieces : List String}
    {next : List String} (followed : pieces.foldlM (step before) place = .ok next) :
    pieces.foldlM (step after) place = .ok next := by
  induction pieces generalizing place with
  | nil => exact followed
  | cons piece pieces ih =>
    obtain ⟨inner, stepped, followed⟩ := foldlM_step_cons.mp followed
    have here := isDirectory_of_step stepped
    refine foldlM_step_cons.mpr ⟨inner, ?_, ih followed⟩
    rw [← step_congr here (keeps.stay place here), stepped]

theorem KeepsDirectories.start (keeps : before.KeepsDirectories after) (path : Path) :
    after.start path = before.start path := by
  rw [Disk.start, Disk.start, keeps.workingDirectory]

/-- **A path still leads where it led, as long as directories stay.** -/
theorem locate_keeps (keeps : before.KeepsDirectories after) (located : before.locate path = .ok place) :
    after.locate path = .ok place := by
  obtain ⟨noNul, fits, named, followed⟩ := locate_eq_ok.mp located
  refine locate_eq_ok.mpr ⟨noNul, fits, named, ?_⟩
  rw [keeps.start]
  exact foldlM_step_keeps keeps followed

/-- A path leads to a directory, or to a place in one. -/
theorem locate_in_directory (located : disk.locate path = .ok place) :
    disk.spot? place = some .directory ∨
      ∃ front name, place = front ++ [name] ∧ disk.spot? front = some .directory := by
  obtain ⟨-, -, -, followed⟩ := locate_eq_ok.mp located
  rw [← List.dropLast_concat_getLast path.pieces_ne_nil] at followed
  obtain ⟨inner, -, last⟩ := foldlM_step_concat.mp followed
  have isDirectory := isDirectory_of_step last
  obtain ⟨-, leads⟩ := step_eq_ok.mp last
  cases leads with
  | stays => exact .inl isDirectory
  | leaves => exact .inl (isDirectory_dropLast isDirectory)
  | enters => exact .inr ⟨inner, _, rfl, isDirectory⟩

/-! ## Writing -/

theorem bind_ok {α β : Type} (value : α) (next : α → Except FileError β) :
    (Except.ok value >>= next) = next value :=
  rfl

/-- A bare entry that is put where a path leads stands there, and whatever stands elsewhere stays. -/
theorem spot?_put {new : Entry} (bare : new.IsBare) (located : disk.locate path = .ok place)
    (noDirectory : disk.spot? place ≠ some .directory) (other : List String) :
    Disk.spot? { disk with top := disk.top.put place new } other =
      if other = place then some new.spot else disk.spot? other := by
  obtain isDirectory | ⟨front, name, rfl, inDirectory⟩ := locate_in_directory located
  · exact absurd isDirectory noDirectory
  · exact Entry.spot?_put bare inDirectory noDirectory other

/-- What is put at a place that is no directory leaves the directories. -/
theorem keepsDirectories_of_spot? {new : Option Spot}
    (noDirectory : before.spot? place ≠ some .directory)
    (stands : ∀ other, after.spot? other = if other = place then new else before.spot? other)
    (sameStart : after.workingDirectory = before.workingDirectory) :
    before.KeepsDirectories after := by
  refine ⟨sameStart, fun names isDirectory => ?_⟩
  have elsewhere : names ≠ place := fun same => noDirectory (same ▸ isDirectory)
  rw [stands, if_neg elsewhere]
  exact isDirectory

/-- A text that is written is put where the path leads. -/
theorem put_of_writeText {text : String} (written : before.writeText path text = .ok after) :
    ∃ names, before.locate path = .ok names ∧ before.spot? names ≠ some .directory ∧
      after = { before with top := before.top.put names (.file (.text text)) } := by
  unfold writeText at written
  cases located : before.locate (withoutSlash path) with
  | error cause =>
    rw [located] at written
    cases written
  | ok names =>
    rw [located] at written
    have noDirectory : before.spot? names ≠ some .directory := by
      intro isDirectory
      obtain ⟨entries, found⟩ := Entry.spot?_eq_directory.mp isDirectory
      rw [bind_ok, found] at written
      cases written
    have put : withoutSlash path = path ∧
        after = { before with top := before.top.put names (.file (.text text)) } := by
      rw [bind_ok] at written
      split at written
      · cases written
      · split at written
        · next noSlash => exact ⟨beq_iff_eq.mp noSlash, (Except.ok.inj written).symm⟩
        · cases written
    obtain ⟨noSlash, isPut⟩ := put
    rw [noSlash] at located
    exact ⟨names, located, noDirectory, isPut⟩

theorem keepsDirectories_writeText {text : String} (written : before.writeText path text = .ok after) :
    before.KeepsDirectories after := by
  obtain ⟨names, located, noDirectory, rfl⟩ := put_of_writeText written
  exact keepsDirectories_of_spot? noDirectory
    (spot?_put (Entry.isBare_file (.text text)) located noDirectory) rfl

/-- **A text that is written is the content of the file that the path leads to, and whatever stands
elsewhere stays.** -/
theorem writeText_eq_ok {text : String} (written : before.writeText path text = .ok after) :
    ∃ names, before.locate path = .ok names ∧ after.locate path = .ok names ∧
      before.spot? names ≠ some .directory ∧ ∀ other, after.spot? other =
        if other = names then some (.file (.text text)) else before.spot? other := by
  obtain ⟨names, located, noDirectory, rfl⟩ := put_of_writeText written
  exact ⟨names, located, locate_keeps (keepsDirectories_writeText written) located, noDirectory,
    spot?_put (Entry.isBare_file (.text text)) located noDirectory⟩

/-- Writing keeps a disk in order. -/
theorem ascending_writeText {text : String} (written : before.writeText path text = .ok after)
    (ascending : before.top.Ascending) : after.top.Ascending := by
  obtain ⟨names, located, -, rfl⟩ := put_of_writeText written
  exact ascending_put ascending located (.file _)

theorem run_writeText_ok {text : String} (written : before.writeText path text = .ok after) :
    (Storage.writeText path text : StateM Disk _).run before = (.ok (), after) := by
  simp only [Storage.writeText, StateT.run_bind, StateT.run_get, pure_bind, written]
  rfl

/-- A refusal changes nothing. -/
theorem run_writeText_error {text : String} {cause : FileError}
    (refused : before.writeText path text = .error cause) :
    (Storage.writeText path text : StateM Disk _).run before = (.error cause, before) := by
  simp only [Storage.writeText, StateT.run_bind, StateT.run_get, pure_bind, refused]
  rfl

/-- What was written is read. -/
theorem readText_of_spot? {text : String} (located : disk.locate path = .ok place)
    (isFile : disk.spot? place = some (.file (.text text))) : disk.readText path = .ok text :=
  readText_text (entry_eq_ok.mpr ⟨place, located, Entry.spot?_eq_file.mp isFile⟩)

/-! ## Creating directories -/

/-- One disk comes of another one without a change to its files, a loss of its directories or a change to
its order. -/
structure Keeps (before after : Disk) : Prop where
  directories : before.KeepsDirectories after
  files : before.SameFiles after
  ascending : before.top.Ascending → after.top.Ascending

theorem keeps_refl (disk : Disk) : disk.Keeps disk :=
  ⟨⟨rfl, fun _ isDirectory => isDirectory⟩, fun _ _ => Iff.rfl, id⟩

theorem KeepsDirectories.trans (first : before.KeepsDirectories middle)
    (second : middle.KeepsDirectories after) : before.KeepsDirectories after :=
  ⟨second.workingDirectory.trans first.workingDirectory,
    fun names isDirectory => second.stay names (first.stay names isDirectory)⟩

theorem Keeps.trans (first : before.Keeps middle) (second : middle.Keeps after) :
    before.Keeps after :=
  ⟨first.directories.trans second.directories,
    fun names content => (second.files names content).trans (first.files names content),
    second.ascending ∘ first.ascending⟩

/-- A new directory changes no file. -/
theorem keeps_makeDirectory (made : before.makeDirectory path = .ok after) : before.Keeps after := by
  unfold makeDirectory at made
  cases located : before.locate (withoutSlash path) with
  | error cause =>
    rw [located] at made
    cases made
  | ok names =>
    rw [located, bind_ok] at made
    split at made
    · cases made
    · next nothing =>
      obtain rfl := Except.ok.inj made
      have noSpot : before.spot? names = none := Entry.spot?_eq_none.mpr nothing
      have noDirectory : before.spot? names ≠ some .directory := by
        rw [noSpot]
        exact nofun
      have stands := spot?_put Entry.isBare_emptyDirectory located noDirectory
      refine ⟨keepsDirectories_of_spot? noDirectory stands rfl, fun other content => ?_,
        fun ascending => ascending_put ascending located (.directory .nil nofun nofun)⟩
      rw [stands]
      split
      · next isPlace =>
        rw [isPlace, noSpot]
        exact ⟨nofun, nofun⟩
      · exact Iff.rfl

/-- Work on a disk that changes no file. -/
def Spares {α : Type} (work : StateM Disk α) : Prop :=
  ∀ disk : Disk, disk.Keeps (work.run disk).2

section Spares

variable {α β : Type} {work : StateM Disk α} {next : α → StateM Disk β}

theorem spares_pure (a : α) : Spares (pure a) :=
  keeps_refl

theorem Spares.bind (first : Spares work) (second : ∀ a, Spares (next a)) : Spares (work >>= next) :=
  fun disk => (first disk).trans (second (work.run disk).1 (work.run disk).2)

/-- What comes after a look at the disk may depend on the disk. -/
theorem spares_get {next : Disk → StateM Disk β}
    (second : ∀ disk : Disk, disk.Keeps ((next disk).run disk).2) : Spares (get >>= next) :=
  second

end Spares

/-- **Creating directories changes no file**, whether it succeeds or is refused on the way. -/
theorem spares_createDirectories (fuel : Nat) (path : Path) : Spares (createDirectories fuel path) := by
  induction fuel generalizing path with
  | zero => exact spares_pure _
  | succ fuel ih =>
    rw [createDirectories]
    split
    · exact spares_pure _
    refine spares_get fun disk => ?_
    split
    · next made => exact keeps_makeDirectory made
    -- The directory above is missing: it is created first.
    · split
      · exact spares_pure _ disk
      · next parent _ =>
        refine Spares.bind (ih parent) (fun result => ?_) disk
        split
        · exact spares_pure _
        · refine spares_get fun middle => ?_
          split
          · next made => exact keeps_makeDirectory made
          · exact keeps_refl middle
    · exact keeps_refl disk

end Disk

end Docsite
