/-
**Where paths lead on a disk.**

A path below a directory leads where the names lead on from the directory, as long as it is no longer
than a path may be. What a walk lists is therefore found again by its path.

* `Disk.locate_eq_ok`: when a path leads somewhere.
* `Disk.step_eq_ok`: where a piece of it leads.
* `Disk.entry_join`: the entry at a path below a directory.
-/

import Docsite.Proofs.List.Correspondence
import Docsite.Proofs.Storage.Listing

namespace Docsite

namespace Disk

variable {disk : Disk} {start place : List String}

/-- A path leads to a place exactly if its text can be a path and its pieces lead there from where it
starts. -/
theorem locate_eq_ok {path : Path} : disk.locate path = .ok place ↔
    '\x00' ∉ path.text.toList ∧ path.text.utf8ByteSize ≤ pathLimit ∧ path.text ≠ "" ∧
      path.pieces.foldlM (step disk) (disk.start path) = .ok place := by
  have empty : (path.text == "") = true ↔ path.text = "" := beq_iff_eq
  unfold locate
  split
  · next nul =>
    have holds : '\x00' ∈ path.text.toList := List.contains_iff_mem.mp nul
    simp [holds]
  · next nul =>
    have free : '\x00' ∉ path.text.toList := fun holds => nul (List.contains_iff_mem.mpr holds)
    split
    · next long =>
      have tooLong : ¬ path.text.utf8ByteSize ≤ pathLimit := Nat.not_le_of_gt long
      simp [tooLong]
    · next short =>
      have fits : path.text.utf8ByteSize ≤ pathLimit := Nat.le_of_not_gt short
      split
      · next nothing => simp [empty.mp nothing]
      · next named => simp [free, fits, mt empty.mpr named]

/-! ## Steps -/

/-- Where a piece leads on from a directory: it stays there, leaves it or enters it. -/
inductive Steps (place : List String) (piece : String) : List String → Prop
  | stays : piece = "" ∨ piece = "." → Steps place piece place
  | leaves : piece = ".." → Steps place piece place.dropLast
  | enters : ¬ (piece = "" ∨ piece = ".") → piece ≠ ".." → piece.utf8ByteSize ≤ nameLimit →
      Steps place piece (place ++ [piece])

/-- **Every step starts from a directory.** -/
theorem step_eq_ok {piece : String} {next : List String} : disk.step place piece = .ok next ↔
    (∃ entries, disk.top.get? place = some (.directory entries)) ∧ Steps place piece next := by
  constructor
  · intro stepped
    unfold step at stepped
    split at stepped
    · cases stepped
    · cases stepped
    next entries isDirectory =>
    refine ⟨⟨entries, isDirectory⟩, ?_⟩
    split at stepped
    · next current =>
      obtain rfl := Except.ok.inj stepped
      exact .stays (by simpa using current)
    next notCurrent =>
    split at stepped
    · next parent =>
      obtain rfl := Except.ok.inj stepped
      exact .leaves (by simpa using parent)
    next notParent =>
    split at stepped
    · cases stepped
    next short =>
    obtain rfl := Except.ok.inj stepped
    exact .enters (by simpa using notCurrent) (by simpa using notParent) (Nat.le_of_not_gt short)
  · rintro ⟨⟨entries, isDirectory⟩, leads⟩
    rw [step, isDirectory]
    dsimp only
    cases leads with
    | stays current => rw [if_pos (by simpa using current)]
    | leaves parent => rw [parent, if_neg (by decide), if_pos (by decide)]
    | enters notCurrent notParent short =>
      rw [if_neg (by simpa using notCurrent), if_neg (by simpa using notParent),
        if_neg (Nat.not_lt_of_ge short)]

/-- A name leads from a directory to the place below it. -/
theorem step_name {name : String} {entries : List (String × Entry)} (isName : IsFileName name)
    (isDirectory : disk.top.get? place = some (.directory entries)) :
    disk.step place name = .ok (place ++ [name]) := by
  have notCurrent : ¬ (name = "" ∨ name = ".") := by simp [isName.ne_empty, isName.ne_current]
  exact step_eq_ok.mpr ⟨⟨entries, isDirectory⟩, .enters notCurrent isName.ne_parent isName.short⟩

/-! ## Rows of pieces -/

theorem foldlM_step_cons {piece : String} {pieces next : List String} :
    (piece :: pieces).foldlM (step disk) place = .ok next ↔
      ∃ inner, disk.step place piece = .ok inner ∧ pieces.foldlM (step disk) inner = .ok next := by
  rw [List.foldlM_cons, bind_eq_ok_iff]

theorem foldlM_step_append {front behind next : List String} :
    (front ++ behind).foldlM (step disk) place = .ok next ↔
      ∃ inner, front.foldlM (step disk) place = .ok inner ∧
        behind.foldlM (step disk) inner = .ok next := by
  rw [List.foldlM_append, bind_eq_ok_iff]

theorem foldlM_step_concat {front next : List String} {piece : String} :
    (front ++ [piece]).foldlM (step disk) place = .ok next ↔
      ∃ inner, front.foldlM (step disk) place = .ok inner ∧ disk.step inner piece = .ok next := by
  simp only [foldlM_step_append, List.foldlM_cons, List.foldlM_nil, bind_pure]

/-- **Names that lead to an entry are followed one by one.** -/
theorem foldlM_step_names {names : List String} {below : Entry}
    (areNames : ∀ name ∈ names, IsFileName name)
    (found : disk.top.get? (place ++ names) = some below) :
    names.foldlM (step disk) place = .ok (place ++ names) := by
  induction names generalizing place with
  | nil =>
    rw [List.append_nil]
    rfl
  | cons name rest ih =>
    obtain ⟨here, isHere, led⟩ :=
      Option.bind_eq_some_iff.mp ((disk.top.get?_append place (name :: rest)).symm.trans found)
    cases here with
    | file content => cases led
    | directory entries =>
      have inner : disk.top.get? (place ++ [name] ++ rest) = some below := by
        rw [List.append_assoc]
        exact found
      rw [List.foldlM_cons, step_name (areNames name List.mem_cons_self) isHere]
      have followed := ih (fun other member => areNames other (List.mem_cons_of_mem name member))
        inner
      rw [List.append_assoc] at followed
      exact followed

/-- An empty piece at the end leads nowhere else. -/
theorem foldlM_step_slash {pieces : List String}
    (located : (pieces ++ [""]).foldlM (step disk) start = .ok place) :
    pieces.foldlM (step disk) start = .ok place := by
  obtain ⟨names, followed, last⟩ := foldlM_step_concat.mp located
  obtain ⟨-, leads⟩ := step_eq_ok.mp last
  cases leads with
  | stays => exact followed
  | leaves parent => exact absurd parent (by decide)
  | enters notCurrent => exact absurd (.inl rfl) notCurrent

/-! ## Paths below a directory -/

/-- A path below another one starts where that one starts. -/
theorem start_join (disk : Disk) {base below : Path} (relative : below.isAbsolute = false)
    (named : base.text ≠ "") : disk.start (base.join below) = disk.start base := by
  rw [Disk.start, Disk.start, Path.isAbsolute_join relative named]

/-- **A path below a directory leads where its names lead on from there.** -/
theorem locate_join {base : Path} {names : List String} {below : Entry}
    (areNames : ∀ name ∈ names, IsFileName name) (some : names ≠ [])
    (located : disk.locate base = .ok place)
    (found : disk.top.get? (place ++ names) = .some below)
    (fits : (base.join (Path.ofNames names)).text.utf8ByteSize ≤ pathLimit) :
    disk.locate (base.join (Path.ofNames names)) = .ok (place ++ names) := by
  have isName : ∀ name ∈ names, Path.IsName name := fun name member => (areNames name member).1
  have relative : (Path.ofNames names).isAbsolute = false := Path.isAbsolute_ofNames isName
  obtain ⟨noNul, -, named, followed⟩ := locate_eq_ok.mp located
  have sameStart := disk.start_join relative named
  have onwards := foldlM_step_names areNames found
  refine locate_eq_ok.mpr ⟨?_, fits, ?_, ?_⟩
  · intro nul
    rcases Path.mem_join relative nul with inBase | isSlash | inNames
    · exact noNul inBase
    · exact absurd isSlash (by decide)
    · rcases Path.mem_ofNames inNames with isSlash | ⟨name, member, inName⟩
      · exact absurd isSlash (by decide)
      · exact (areNames name member).noNul inName
  · intro nothing
    rw [Path.join, if_neg (by rw [relative]; exact Bool.false_ne_true)] at nothing
    split at nothing
    · exact named (String.append_eq_empty_iff.mp nothing).1
    · exact named (String.append_eq_empty_iff.mp (String.append_eq_empty_iff.mp nothing).1).1
  · rw [sameStart]
    rcases Path.pieces_join relative named with ⟨front, spelled, pieces⟩ | pieces
    · have same : base.pieces = Path.pieces ⟨front⟩ ++ [""] := by
        have cut := Path.pieces_append_slash front ""
        rw [String.append_empty, ← spelled] at cut
        exact cut
      rw [same] at followed
      rw [pieces, Path.pieces_ofNames isName some, List.foldlM_append,
        foldlM_step_slash followed]
      exact onwards
    · rw [pieces, Path.pieces_ofNames isName some, List.foldlM_append, followed]
      exact onwards

theorem entry_eq_ok {path : Path} {entry : Entry} : disk.entry path = .ok entry ↔
    ∃ place, disk.locate path = .ok place ∧ disk.top.get? place = some entry := by
  unfold Disk.entry
  cases located : disk.locate path with
  | error cause =>
    constructor
    · intro found
      cases found
    · rintro ⟨place, same, -⟩
      cases same
  | ok place =>
    simp only [bind, Except.bind]
    constructor
    · intro found
      refine ⟨place, rfl, ?_⟩
      split at found
      · next isHere =>
        obtain rfl := Except.ok.inj found
        exact isHere
      · cases found
    · rintro ⟨other, same, isHere⟩
      obtain rfl := Except.ok.inj same
      rw [isHere]

/-- **The entry at a path below a directory is the one that the names lead to from there.** -/
theorem entry_join {base : Path} {names : List String} {directory below : Entry}
    (areNames : ∀ name ∈ names, IsFileName name) (some : names ≠ [])
    (isDirectory : disk.entry base = .ok directory) (found : directory.get? names = .some below)
    (fits : (base.join (Path.ofNames names)).text.utf8ByteSize ≤ pathLimit) :
    disk.entry (base.join (Path.ofNames names)) = .ok below := by
  obtain ⟨place, located, isHere⟩ := entry_eq_ok.mp isDirectory
  have led : disk.top.get? (place ++ names) = .some below := by
    rw [Entry.get?_append, isHere, Option.bind_some]
    exact found
  exact entry_eq_ok.mpr ⟨place ++ names, locate_join areNames some located led fits, led⟩

/-- Only a directory is listed. -/
theorem listing?_eq_some {path : Path} {listing : Listing} :
    disk.listing? path = some listing ↔ ∃ entries, disk.entry path = .ok (.directory entries) ∧
      listing = Entry.listing (.directory entries) := by
  unfold Disk.listing?
  split
  · next entries found =>
    constructor
    · intro same
      exact ⟨entries, found, (Option.some.inj same).symm⟩
    · rintro ⟨other, same, rfl⟩
      obtain rfl := Entry.directory.inj (Except.ok.inj (found.symm.trans same))
      rfl
  · next notDirectory =>
    constructor
    · intro nothing
      cases nothing
    · rintro ⟨entries, found, -⟩
      exact (notDirectory entries found).elim

/-- The text of a file that is there. -/
theorem readText_text {path : Path} {text : String}
    (isFile : disk.entry path = .ok (.file (.text text))) : disk.readText path = .ok text := by
  rw [readText, isFile]
  rfl

theorem readText_binary {path : Path} (isFile : disk.entry path = .ok (.file .binary)) :
    disk.readText path = .error .notUtf8 := by
  rw [readText, isFile]
  rfl

end Disk

end Docsite
