/-
**Where paths lead when a disk grows.**

A path that leads nowhere because a directory is missing may lead somewhere once the directory is there.
Where it then leads, nothing stood before, unless the path goes up again behind the missing directory.
Any other path that leads nowhere still leads nowhere.

* `Disk.holds_iff`: the paths at which something stands.
* `Disk.locate_error_keeps`, `Disk.spot?_of_missing`: paths that lead nowhere, on a disk that has grown.
* `Disk.locate_of_join`: where a path below a directory leads.
* `Disk.locate_siteDirOf`: the directory of a file leads to the place above the file.
-/

import Docsite.CommandLine.Run
import Docsite.Proofs.Path.Parent
import Docsite.Proofs.Storage.Writing

namespace Docsite

/-! ## Pieces of a path -/

namespace Path

/-- A path is no longer than one that it is the front of. -/
theorem utf8ByteSize_le_of_prefix {front whole : String} (within : front.toList <+: whole.toList) :
    front.utf8ByteSize ≤ whole.utf8ByteSize := by
  obtain ⟨behind, split⟩ := within
  have both : whole = front ++ String.ofList behind := by
    rw [← String.toList_inj, String.toList_append, String.toList_ofList, split]
  rw [both, String.utf8ByteSize_append]
  exact Nat.le_add_right _ _

end Path

namespace Disk

variable {disk before after : Disk} {path : Path} {start place next : List String}
  {pieces : List String}

/-! ## What stands at a path -/

/-- Something stands at a path exactly if the path leads to a place where something stands. -/
theorem holds_iff : disk.holds path = true ↔
    ∃ place, disk.locate path = .ok place ∧ disk.spot? place ≠ none := by
  have found (place : List String) :
      disk.spot? place ≠ none ↔ ∃ entry, disk.top.get? place = some entry := by
    rw [ne_eq, spot?, Entry.spot?_eq_none, ← ne_eq, Option.ne_none_iff_exists']
  simp only [found]
  rw [holds]
  cases stands : disk.entry path with
  | ok entry =>
    obtain ⟨place, located, isHere⟩ := entry_eq_ok.mp stands
    exact iff_of_true rfl ⟨place, located, entry, isHere⟩
  | error cause =>
    refine iff_of_false Bool.false_ne_true ?_
    rintro ⟨place, located, entry, isHere⟩
    rw [entry_eq_ok.mpr ⟨place, located, isHere⟩] at stands
    cases stands

/-! ## Paths that lead nowhere -/

theorem step_error_keeps {piece : String} {cause : FileError} (keeps : before.Keeps after)
    (refused : before.step place piece = .error cause) (present : cause ≠ .notFound) :
    after.step place piece = .error cause := by
  cases here : before.top.get? place with
  | none =>
    rw [step, here] at refused
    exact absurd (Except.error.inj refused).symm present
  | some entry =>
    cases entry with
    | file content =>
      have stays := (keeps.files place content).mpr (Entry.spot?_eq_file.mpr here)
      rw [step, here] at refused
      rw [step, Entry.spot?_eq_file.mp stays]
      exact refused
    | directory entries =>
      have isDirectory : before.spot? place = some .directory :=
        Entry.spot?_eq_directory.mpr ⟨entries, here⟩
      rw [← step_congr isDirectory (keeps.directories.stay place isDirectory)]
      exact refused

theorem foldlM_step_error_keeps {cause : FileError} (keeps : before.Keeps after)
    (refused : pieces.foldlM (step before) place = .error cause) (present : cause ≠ .notFound) :
    pieces.foldlM (step after) place = .error cause := by
  induction pieces generalizing place with
  | nil => cases refused
  | cons piece pieces ih =>
    rw [List.foldlM_cons] at refused ⊢
    cases stepped : before.step place piece with
    | error other =>
      rw [stepped] at refused
      obtain rfl : other = cause := Except.error.inj refused
      rw [step_error_keeps keeps stepped present]
      rfl
    | ok inner =>
      rw [stepped] at refused
      have here := isDirectory_of_step stepped
      rw [← step_congr here (keeps.directories.stay place here), stepped]
      exact ih refused

/-- **A path that leads nowhere still leads nowhere, unless something was missing.** -/
theorem locate_error_keeps {cause : FileError} (keeps : before.Keeps after)
    (refused : before.locate path = .error cause) (present : cause ≠ .notFound) :
    after.locate path = .error cause := by
  unfold locate at refused ⊢
  split at refused
  · next nul => rw [if_pos nul, ← refused]
  · next nul =>
    rw [if_neg nul]
    split at refused
    · next long => rw [if_pos long, ← refused]
    · next long =>
      rw [if_neg long]
      split at refused
      · next nothing => rw [if_pos nothing, ← refused]
      · next named =>
        rw [if_neg named, keeps.directories.start]
        exact foldlM_step_error_keeps keeps refused present

/-- Without going up, a path leads further down. -/
theorem prefix_of_foldlM_step (climbs : ".." ∉ pieces)
    (followed : pieces.foldlM (step disk) place = .ok next) : place <+: next := by
  induction pieces generalizing place with
  | nil => exact Except.ok.inj followed ▸ List.prefix_rfl
  | cons piece pieces ih =>
    rw [List.mem_cons, not_or] at climbs
    obtain ⟨inner, stepped, followed⟩ := foldlM_step_cons.mp followed
    have further := ih climbs.2 followed
    obtain ⟨-, leads⟩ := step_eq_ok.mp stepped
    cases leads with
    | stays => exact further
    | leaves parent => exact absurd parent.symm climbs.1
    | enters => exact (List.prefix_append place [piece]).trans further

theorem foldlM_step_missing (keeps : before.KeepsDirectories after) (climbs : ".." ∉ pieces)
    (missing : pieces.foldlM (step before) place = .error .notFound)
    (followed : pieces.foldlM (step after) place = .ok next) : before.spot? next = none := by
  induction pieces generalizing place with
  | nil => cases missing
  | cons piece pieces ih =>
    have within := prefix_of_foldlM_step climbs followed
    rw [List.mem_cons, not_or] at climbs
    rw [List.foldlM_cons] at missing followed
    cases stepped : before.step place piece with
    | ok inner =>
      rw [stepped] at missing
      have here := isDirectory_of_step stepped
      rw [← step_congr here (keeps.stay place here), stepped] at followed
      exact ih climbs.2 missing followed
    | error cause =>
      -- The place that is left is missing itself, so everything below it is.
      have nothing : before.spot? place = none := by
        rw [stepped] at missing
        obtain rfl : cause = .notFound := Except.error.inj missing
        unfold step at stepped
        split at stepped
        · next absent => exact Entry.spot?_eq_none.mpr absent
        · cases stepped
        · have notParent : ¬ (piece == "..") = true := fun same => climbs.1 (eq_of_beq same).symm
          rw [if_neg notParent] at stepped
          split at stepped
          · cases stepped
          · split at stepped <;> cases stepped
      obtain ⟨more, rfl⟩ := within
      cases more with
      | nil => rwa [List.append_nil]
      | cons name more =>
        by_contra found
        have isDirectory : before.spot? place = some .directory := Entry.spot?_of_append found
        rw [nothing] at isDirectory
        cases isDirectory

/-- **Where a path leads only since directories were created, nothing stood before**, as long as the
path does not go up. -/
theorem spot?_of_missing (keeps : before.KeepsDirectories after) (climbs : ".." ∉ path.pieces)
    (missing : before.locate path = .error .notFound) (located : after.locate path = .ok place) :
    before.spot? place = none := by
  obtain ⟨noNul, fits, named, followed⟩ := locate_eq_ok.mp located
  rw [keeps.start] at followed
  refine foldlM_step_missing keeps climbs ?_ followed
  cases led : path.pieces.foldlM (step before) (before.start path) with
  | ok other =>
    rw [locate_eq_ok.mpr ⟨noNul, fits, named, led⟩] at missing
    cases missing
  | error cause =>
    have nul : ¬ path.text.toList.contains '\x00' = true := fun holds =>
      noNul (List.contains_iff_mem.mp holds)
    have notEmpty : ¬ (path.text == "") = true := by simpa using named
    rw [locate, if_neg nul, if_neg (Nat.not_lt_of_ge fits), if_neg notEmpty, led] at missing
    exact missing

/-! ## Paths below a directory -/

/-- Names lead down one by one. -/
theorem eq_append_of_foldlM_step {names : List String} (areNames : ∀ name ∈ names, Path.IsName name)
    (followed : names.foldlM (step disk) place = .ok next) : next = place ++ names := by
  induction names generalizing place with
  | nil => rw [List.append_nil, Except.ok.inj followed]
  | cons name names ih =>
    have isName := areNames name List.mem_cons_self
    obtain ⟨inner, stepped, followed⟩ := foldlM_step_cons.mp followed
    obtain ⟨-, leads⟩ := step_eq_ok.mp stepped
    cases leads with
    | stays current => exact absurd current (by simp [isName.ne_empty, isName.ne_current])
    | leaves parent => exact absurd parent isName.ne_parent
    | enters =>
      rw [ih (fun other member => areNames other (List.mem_cons_of_mem name member)) followed,
        List.append_assoc]
      rfl

/-- A slash behind what leads to a directory leads there, too. -/
theorem foldlM_step_concat_slash (followed : pieces.foldlM (step disk) start = .ok place)
    (isDirectory : disk.spot? place = some .directory) :
    (pieces ++ [""]).foldlM (step disk) start = .ok place :=
  foldlM_step_concat.mpr
    ⟨place, followed, step_eq_ok.mpr ⟨Entry.spot?_eq_directory.mp isDirectory, .stays (.inl rfl)⟩⟩

/-- **A path below another one leads below the place where that one leads.** -/
theorem locate_of_join {base : Path} {names : List String} (named : base.text ≠ "")
    (areNames : ∀ name ∈ names, Path.IsName name) (nonempty : names ≠ [])
    (located : disk.locate (base.join (Path.ofNames names)) = .ok next) :
    ∃ place, disk.locate base = .ok place ∧ next = place ++ names := by
  have relative : (Path.ofNames names).isAbsolute = false := Path.isAbsolute_ofNames areNames
  obtain ⟨noNul, fits, -, followed⟩ := locate_eq_ok.mp located
  rw [disk.start_join relative named] at followed
  have within : base.text.toList <+: (base.join (Path.ofNames names)).text.toList := by
    rw [Path.join, if_neg (by rw [relative]; exact Bool.false_ne_true)]
    split
    · rw [String.toList_append]
      exact List.prefix_append _ _
    · rw [String.toList_append, String.toList_append, List.append_assoc]
      exact List.prefix_append _ _
  have leads {place : List String}
      (led : base.pieces.foldlM (step disk) (disk.start base) = .ok place) :
      disk.locate base = .ok place :=
    locate_eq_ok.mpr ⟨fun nul => noNul (within.subset nul),
      (Path.utf8ByteSize_le_of_prefix within).trans fits, named, led⟩
  have isPieces := Path.pieces_ofNames areNames nonempty
  rcases Path.pieces_join relative named with ⟨front, spelled, pieces⟩ | pieces
  · rw [pieces, isPieces] at followed
    obtain ⟨place, led, behind⟩ := foldlM_step_append.mp followed
    refine ⟨place, leads ?_, eq_append_of_foldlM_step areNames behind⟩
    -- The slash at the end stays in the directory from which the names lead on.
    have same : base.pieces = Path.pieces ⟨front⟩ ++ [""] := by
      have cut := Path.pieces_append_slash front ""
      rw [String.append_empty, ← spelled] at cut
      exact cut
    obtain ⟨name, others, rfl⟩ := List.exists_cons_of_ne_nil nonempty
    obtain ⟨inner, stepped, -⟩ := foldlM_step_cons.mp behind
    rw [same]
    exact foldlM_step_concat_slash led (isDirectory_of_step stepped)
  · rw [pieces, isPieces] at followed
    obtain ⟨place, led, behind⟩ := foldlM_step_append.mp followed
    exact ⟨place, leads led, eq_append_of_foldlM_step areNames behind⟩

/-! ## The directory of a file -/

/-- Pieces at the end of a path that are no component lead nowhere else. -/
theorem foldlM_trimPieces (absolute : Bool) (reversed : List String)
    (followed : reversed.reverse.foldlM (step disk) start = .ok place) :
    (Path.trimPieces absolute reversed).reverse.foldlM (step disk) start = .ok place := by
  have stays {piece : String} {front : List String} (noComponent : Path.componentOf? piece = none)
      (led : (front ++ [piece]).foldlM (step disk) start = .ok place) :
      front.foldlM (step disk) start = .ok place := by
    obtain ⟨inner, reached, last⟩ := foldlM_step_concat.mp led
    have noName : piece = "" ∨ piece = "." := by
      unfold Path.componentOf? at noComponent
      split at noComponent
      · next current => simpa using current
      · split at noComponent <;> cases noComponent
    obtain ⟨-, leads⟩ := step_eq_ok.mp last
    cases leads with
    | stays => exact reached
    | leaves parent => exact absurd (parent ▸ noName) (by decide)
    | enters notCurrent => exact absurd noName notCurrent
  fun_induction Path.trimPieces absolute reversed with
  | case1 => exact followed
  | case2 first counts => exact followed
  | case3 first counts =>
    -- The first piece of an absolute path counts, so this path is relative.
    have noComponent : Path.componentOf? first = none := by
      unfold Path.firstComponent? at counts
      split at counts
      · simp at counts
      split at counts
      · simp at counts
      · simpa using counts
    exact stays noComponent followed
  | case4 piece more _ counts => exact followed
  | case5 piece more several counts ih =>
    rw [List.reverse_cons] at followed
    exact ih (stays (by simpa using counts) followed)

/-- A step to a place that is no directory enters a name. -/
theorem name_of_step {piece : String} (stepped : disk.step place piece = .ok next)
    (noDirectory : disk.spot? next ≠ some .directory) :
    next = place ++ [piece] ∧ Path.componentOf? piece = some (.name piece) := by
  have isDirectory := isDirectory_of_step stepped
  obtain ⟨-, leads⟩ := step_eq_ok.mp stepped
  cases leads with
  | stays => exact absurd isDirectory noDirectory
  | leaves => exact absurd (isDirectory_dropLast isDirectory) noDirectory
  | enters notCurrent notParent =>
    refine ⟨rfl, ?_⟩
    rw [Path.componentOf?, if_neg (by simpa using notCurrent), if_neg (by simpa using notParent)]

/-- A path leads to a directory from which its last piece leads on. -/
theorem exists_front_of_locate (located : disk.locate path = .ok place) :
    ∃ before last front, path.pieces = before ++ [last] ∧
      before.foldlM (step disk) (disk.start path) = .ok front ∧ disk.step front last = .ok place := by
  obtain ⟨-, -, -, followed⟩ := locate_eq_ok.mp located
  obtain ⟨before, last, split⟩ :=
    (List.eq_nil_or_concat path.pieces).resolve_left path.pieces_ne_nil
  rw [List.concat_eq_append] at split
  rw [split] at followed
  obtain ⟨front, led, stepped⟩ := foldlM_step_concat.mp followed
  exact ⟨before, last, front, split, led, stepped⟩

/-- The path `/` leads to the top, and `.` to the working directory. -/
theorem locate_start (isDirectory : disk.spot? (disk.start path) = some .directory) :
    disk.locate (if path.isAbsolute then ⟨"/"⟩ else ⟨"."⟩) = .ok (disk.start path) := by
  have isHere := Entry.spot?_eq_directory.mp isDirectory
  cases rooted : path.isAbsolute with
  | true =>
    have isTop : disk.start path = [] := by rw [Disk.start, if_pos rooted]
    rw [isTop] at isHere ⊢
    have stays : disk.step [] "" = .ok [] := step_eq_ok.mpr ⟨isHere, .stays (.inl rfl)⟩
    have followed : (Path.pieces ⟨"/"⟩).foldlM (step disk) (disk.start ⟨"/"⟩) = .ok [] :=
      foldlM_step_cons.mpr ⟨[], stays, foldlM_step_cons.mpr ⟨[], stays, rfl⟩⟩
    exact locate_eq_ok.mpr ⟨by decide, by decide, by decide, followed⟩
  | false =>
    have isWorking : disk.start path = disk.workingDirectory := by
      rw [Disk.start, rooted, if_neg Bool.false_ne_true]
    rw [isWorking] at isHere ⊢
    have stays : disk.step disk.workingDirectory "." = .ok disk.workingDirectory :=
      step_eq_ok.mpr ⟨isHere, .stays (.inr rfl)⟩
    have followed : (Path.pieces ⟨"."⟩).foldlM (step disk) (disk.start ⟨"."⟩) =
        .ok disk.workingDirectory := foldlM_step_cons.mpr ⟨_, stays, rfl⟩
    exact locate_eq_ok.mpr ⟨by decide, by decide, by decide, followed⟩

/-- **A path that is spelled by the first pieces of another one leads where these pieces lead.** -/
theorem locate_ofNames_pieces {whole : Path} {front behind : List String}
    (split : whole.pieces = front ++ behind) (located : disk.locate whole = .ok next)
    (followed : front.foldlM (step disk) (disk.start whole) = .ok place)
    (named : (Path.ofNames front).text ≠ "") : disk.locate (Path.ofNames front) = .ok place := by
  obtain ⟨noNul, fits, -, -⟩ := locate_eq_ok.mp located
  have within := Path.prefix_of_pieces (split ▸ List.prefix_append front behind)
  have nonempty : front ≠ [] := by
    rintro rfl
    exact named rfl
  have noSlash : ∀ piece ∈ front, '/' ∉ piece.toList := fun piece member =>
    Path.noSlash_of_mem_pieces (split ▸ List.mem_append_left behind member)
  have sameStart : disk.start (Path.ofNames front) = disk.start whole := by
    rw [Disk.start, Disk.start,
      Path.isAbsolute_of_pieces (split ▸ List.prefix_append front behind) named]
  refine locate_eq_ok.mpr ⟨fun nul => noNul (within.subset nul),
    (Path.utf8ByteSize_le_of_prefix within).trans fits, named, ?_⟩
  rw [Path.pieces_ofTexts noSlash nonempty, sameStart]
  exact followed

/-- The directory of a file whose path ends in a name. -/
theorem siteDirOf_eq {config : Path} {before : List String} {last : String}
    (split : config.pieces = before ++ [last]) (isName : Path.componentOf? last = some (.name last)) :
    siteDirOf config =
      let front := (Path.trimPieces config.isAbsolute before.reverse).reverse
      if (Path.ofNames front).text = "" then if config.isAbsolute then ⟨"/"⟩ else ⟨"."⟩
      else Path.ofNames front := by
  have within : (Path.trimPieces config.isAbsolute before.reverse).reverse <+: config.pieces := by
    have inBefore :=
      List.reverse_prefix.mpr (Path.trimPieces_suffix config.isAbsolute before.reverse)
    rw [List.reverse_reverse] at inBefore
    exact inBefore.trans (split ▸ List.prefix_append before [last])
  have spelled := Path.ofPieces_eq within
  rw [siteDirOf, Path.parent?_of_name split isName]
  dsimp only
  by_cases nothing : (Path.ofNames (Path.trimPieces config.isAbsolute before.reverse).reverse).text = ""
  · by_cases rooted : config.isAbsolute = true
    · rw [if_pos ⟨rooted, nothing⟩] at spelled
      rw [spelled, if_pos nothing, if_pos rooted]
      rfl
    · rw [if_neg fun both => rooted both.1] at spelled
      rw [spelled, if_pos (beq_iff_eq.mpr nothing), if_pos nothing, if_neg rooted]
  · rw [if_neg fun both => nothing both.2] at spelled
    rw [spelled, if_neg fun same => nothing (eq_of_beq same), if_neg nothing]

/-- Pieces that spell nothing stay where they start. -/
theorem eq_start_of_ofNames_empty (noSlash : ∀ piece ∈ pieces, '/' ∉ piece.toList)
    (nothing : (Path.ofNames pieces).text = "")
    (followed : pieces.foldlM (step disk) start = .ok place) : place = start := by
  rcases (Path.ofNames_text_eq_empty noSlash).mp nothing with rfl | rfl
  · exact (Except.ok.inj followed).symm
  · have nowhere : ([] : List String).foldlM (step disk) start = .ok place :=
      foldlM_step_slash followed
    exact (Except.ok.inj nowhere).symm

/-- **The directory of a file leads to the place above the file.** -/
theorem locate_siteDirOf {config : Path} (located : disk.locate config = .ok place)
    (noDirectory : disk.spot? place ≠ some .directory) :
    ∃ front name, place = front ++ [name] ∧ disk.locate (siteDirOf config) = .ok front := by
  obtain ⟨before, last, front, split, led, stepped⟩ := exists_front_of_locate located
  obtain ⟨rfl, isName⟩ := name_of_step stepped noDirectory
  have isDirectory := isDirectory_of_step stepped
  refine ⟨front, last, rfl, ?_⟩
  have trimmed := foldlM_trimPieces config.isAbsolute before.reverse (by rwa [List.reverse_reverse])
  have inBefore :=
    List.reverse_prefix.mpr (Path.trimPieces_suffix config.isAbsolute before.reverse)
  rw [siteDirOf_eq split isName]
  generalize (Path.trimPieces config.isAbsolute before.reverse).reverse = kept at trimmed inBefore ⊢
  rw [List.reverse_reverse] at inBefore
  obtain ⟨behind, rfl⟩ := inBefore
  rw [List.append_assoc] at split
  dsimp only
  split
  · next nothing =>
    have noSlash : ∀ piece ∈ kept, '/' ∉ piece.toList := fun piece member =>
      Path.noSlash_of_mem_pieces (split ▸ List.mem_append_left _ member)
    obtain rfl := eq_start_of_ofNames_empty noSlash nothing trimmed
    exact locate_start isDirectory
  · next named => exact locate_ofNames_pieces split located trimmed named

end Disk

end Docsite
