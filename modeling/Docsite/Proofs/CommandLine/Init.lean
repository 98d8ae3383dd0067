/-
**Starting a site.**

A new site is a configuration and two pages in a directory next to it. Nothing else is written, and without
leave to overwrite nothing is written where something stands. Whether something stands at the path of the
configuration is asked before the directories are created, though: a path that goes up again behind a
missing directory leads to a file that is not seen.

* `Disk.Adds`: files that are written at some paths.
* `Started`: what starting a site comes to, step by step.
* `runInit_started`: the command takes exactly these steps.
* `init_spares`: what becomes of the files that were there.
-/

import Docsite.Proofs.CommandLine.Export
import Docsite.Proofs.Storage.Following

namespace Docsite

/-! ## Files that are added -/

namespace Disk

variable {before middle after : Disk} {path : Path} {paths others : List Path} {overwrite : Bool}

/-- One disk comes of another one by writing files at some paths. Without leave to overwrite, nothing stood
where they are written. -/
structure Adds (overwrite : Bool) (paths : List Path) (before after : Disk) : Prop where
  directories : before.KeepsDirectories after
  /-- Where something stood, something stands. -/
  stays : ∀ names, before.spot? names ≠ none → after.spot? names ≠ none
  elsewhere : ∀ names, after.spot? names = before.spot? names ∨
    (overwrite = true ∨ before.spot? names = none) ∧ ∃ path ∈ paths, after.locate path = .ok names

theorem adds_refl (overwrite : Bool) (paths : List Path) (disk : Disk) :
    Adds overwrite paths disk disk :=
  ⟨⟨rfl, fun _ => id⟩, fun _ => id, fun _ => .inl rfl⟩

theorem Adds.trans (first : Adds overwrite paths before middle)
    (second : Adds overwrite others middle after) :
    Adds overwrite (paths ++ others) before after where
  directories := first.directories.trans second.directories
  stays names found := second.stays names (first.stays names found)
  elsewhere names := by
    rcases second.elsewhere names with same | ⟨vacant, path, member, located⟩
    · rcases first.elsewhere names with unchanged | ⟨vacant, path, member, located⟩
      · exact .inl (same.trans unchanged)
      · exact .inr ⟨vacant, path, List.mem_append_left others member,
          locate_keeps second.directories located⟩
    · refine .inr ⟨vacant.imp_right fun nothing => ?_, path, List.mem_append_right paths member, located⟩
      by_contra found
      exact first.stays names found nothing

/-- A file that is written is added at its path. -/
theorem adds_writeText {text : String} (vacant : overwrite = true ∨ before.holds path = false)
    (written : before.writeText path text = .ok after) : Adds overwrite [path] before after := by
  obtain ⟨names, leads, located, noDirectory, stands⟩ := writeText_eq_ok written
  refine ⟨keepsDirectories_writeText written, fun other found => ?_, fun other => ?_⟩
  · rw [stands]
    split
    · exact Option.some_ne_none _
    · exact found
  · by_cases isPlace : other = names
    · subst isPlace
      refine .inr ⟨vacant.imp_right fun notHeld => ?_, path, List.mem_singleton_self path, located⟩
      by_contra found
      rw [holds_iff.mpr ⟨other, leads, found⟩] at notHeld
      cases notHeld
    · rw [stands, if_neg isPlace]
      exact .inl rfl

theorem Adds.holds (adds : Adds overwrite paths before after) (held : before.holds path = true) :
    after.holds path = true := by
  obtain ⟨place, located, found⟩ := holds_iff.mp held
  exact holds_iff.mpr ⟨place, locate_keeps adds.directories located, adds.stays place found⟩

end Disk

/-! ## The steps of the command -/

/-- The documentation directory of a new site. -/
def docsOf (config : Path) : Path :=
  (siteDirOf config).join ⟨"docs"⟩

/-- The pages of a new site, by their names. -/
def Scaffold.pages : List (String × String) :=
  [("intro.md", intro), ("getting-started.md", gettingStarted)]

/-- The places of a new site: that of the configuration, and those of the pages next to it. -/
def Scaffold.places (front : List String) (name : String) : List (List String) :=
  (front ++ [name]) :: pages.map fun page => front ++ ["docs", page.1]

/-- **What writing a page comes to.** -/
inductive PageWritten (docs : Path) (overwrite : Bool) (page : String × String) (before : Disk) :
    Except Failure Unit → Disk → Prop
  /-- Something is at its path, and stays. -/
  | kept : overwrite = false → before.holds (docs.join ⟨page.1⟩) = true →
      PageWritten docs overwrite page before (.ok ()) before
  | written {after : Disk} : overwrite = true ∨ before.holds (docs.join ⟨page.1⟩) = false →
      before.writeText (docs.join ⟨page.1⟩) page.2 = .ok after →
      PageWritten docs overwrite page before (.ok ()) after
  | refused {failure : Failure} : PageWritten docs overwrite page before (.error failure) before

/-- What writing pages comes to, one after the other. -/
inductive PagesWritten (docs : Path) (overwrite : Bool) :
    List (String × String) → Disk → Except Failure Unit → Disk → Prop
  | done {disk : Disk} : PagesWritten docs overwrite [] disk (.ok ()) disk
  | stopped {page : String × String} {rest : List (String × String)} {before after : Disk}
      {failure : Failure} : PageWritten docs overwrite page before (.error failure) after →
      PagesWritten docs overwrite (page :: rest) before (.error failure) after
  | next {page : String × String} {rest : List (String × String)} {before middle after : Disk}
      {result : Except Failure Unit} : PageWritten docs overwrite page before (.ok ()) middle →
      PagesWritten docs overwrite rest middle result after →
      PagesWritten docs overwrite (page :: rest) before result after

/-- **What starting a site comes to.** -/
inductive Started (config : Path) (overwrite : Bool) (disk : Disk) : Except Failure Unit → Disk → Prop
  /-- Something is at the path of the configuration, and nothing is done. -/
  | present : overwrite = false → disk.holds config = true → Started config overwrite disk (.ok ()) disk
  /-- A directory or the configuration is refused; some directories may have been created. -/
  | refused {failure : Failure} {middle : Disk} : overwrite = true ∨ disk.holds config = false →
      disk.Keeps middle → Started config overwrite disk (.error failure) middle
  /-- The configuration is written, then the pages. -/
  | begun {middle written after : Disk} {result : Except Failure Unit} :
      overwrite = true ∨ disk.holds config = false → disk.Keeps middle →
      middle.writeText config Scaffold.config = .ok written →
      PagesWritten (docsOf config) overwrite Scaffold.pages written result after →
      Started config overwrite disk result after

section Steps

variable {config docs : Path} {overwrite : Bool} {disk before : Disk}

theorem writePage_written (docs : Path) (overwrite : Bool) (page : String × String)
    (given : List Notice) (before : Disk) :
    PageWritten docs overwrite page before
      ((writePage docs overwrite page.1 page.2).on given before).1.1
      ((writePage docs overwrite page.1 page.2).on given before).2 := by
  have asked : (Task.ask (Storage.holds (docs.join ⟨page.1⟩))).on given before =
      ((.ok (before.holds (docs.join ⟨page.1⟩)), given), before) := rfl
  rw [writePage, Task.on_bind_ok asked]
  by_cases vacant : (overwrite || !before.holds (docs.join ⟨page.1⟩)) = true
  · rw [if_pos vacant]
    cases written : before.writeText (docs.join ⟨page.1⟩) page.2 with
    | error cause =>
      rw [Task.on_bind_error (writeFile_on_error page.1 written)]
      exact .refused
    | ok after =>
      rw [Task.on_bind_ok (writeFile_on_ok page.1 written)]
      exact .written (by simpa using vacant) written
  · rw [if_neg vacant]
    simp only [Bool.or_eq_true, Bool.not_eq_true', not_or, Bool.not_eq_true, Bool.not_eq_false]
      at vacant
    exact .kept vacant.1 vacant.2

/-- A page and what comes behind it are written one after the other. -/
theorem writePage_bind_written (page : String × String) {pages : List (String × String)}
    {rest : Task (StateM Disk) Unit}
    (behind : ∀ given before, PagesWritten docs overwrite pages before (rest.on given before).1.1
      (rest.on given before).2) (given : List Notice) (before : Disk) :
    PagesWritten docs overwrite (page :: pages) before
      ((writePage docs overwrite page.1 page.2 >>= fun _ => rest).on given before).1.1
      ((writePage docs overwrite page.1 page.2 >>= fun _ => rest).on given before).2 := by
  have first := writePage_written docs overwrite page given before
  cases ran : (writePage docs overwrite page.1 page.2).on given before with
  | mk outcome middle =>
    obtain ⟨result, said⟩ := outcome
    rw [ran] at first
    cases result with
    | error failure =>
      rw [Task.on_bind_error ran]
      exact .stopped first
    | ok done =>
      rw [Task.on_bind_ok ran]
      exact .next first (behind said middle)

/-- **Starting a site takes these steps and no others.** -/
theorem runInit_started (config : Path) (overwrite : Bool) (given : List Notice) (disk : Disk) :
    Started config overwrite disk ((runInit config overwrite).on given disk).1.1
      ((runInit config overwrite).on given disk).2 := by
  have began (given : List Notice) : (Task.give .initStarted : Task (StateM Disk) Unit).on given disk =
      ((.ok (), given ++ [.initStarted]), disk) := rfl
  have asked (given : List Notice) : (Task.ask (Storage.holds config)).on given disk =
      ((.ok (disk.holds config), given), disk) := rfl
  rw [runInit, Task.on_bind_ok (began given), Task.on_bind_ok (asked _)]
  by_cases isPresent : (!overwrite && disk.holds config) = true
  · rw [if_pos isPresent]
    simp only [Bool.and_eq_true, Bool.not_eq_true'] at isPresent
    exact .present isPresent.1 isPresent.2
  rw [if_neg isPresent]
  have absent : overwrite = true ∨ disk.holds config = false := by
    cases overwrite <;> simp_all
  have spared := Disk.spares_createDirectories ((docsOf config).pieces.length + 1) (docsOf config) disk
  cases created : (Disk.createDirectories ((docsOf config).pieces.length + 1) (docsOf config)).run disk with
  | mk result middle =>
    rw [created] at spared
    have isDocs : (siteDirOf config).join ⟨"docs"⟩ = docsOf config := rfl
    dsimp only
    rw [isDocs, Task.on_bind_ok (ask_createDirectories created)]
    cases result with
    | error cause => exact .refused absent spared
    | ok done =>
      rw [Task.on_bind_ok rfl]
      cases written : middle.writeText config Scaffold.config with
      | error cause =>
        rw [Task.on_bind_error (writeFile_on_error config.text written)]
        exact .refused absent spared
      | ok after =>
        rw [Task.on_bind_ok (writeFile_on_ok config.text written), Task.on_bind_ok rfl]
        refine .begun absent spared written ?_
        refine writePage_bind_written ("intro.md", Scaffold.intro) ?_ _ _
        refine writePage_bind_written ("getting-started.md", Scaffold.gettingStarted) ?_
        exact fun _ _ => .done

end Steps

/-! ## What the steps change -/

section Changes

variable {config docs : Path} {overwrite : Bool} {disk before after : Disk} {page : String × String}
  {pages : List (String × String)} {result : Except Failure Unit} {names : List String}

theorem PageWritten.adds (written : PageWritten docs overwrite page before result after) :
    Disk.Adds overwrite [docs.join ⟨page.1⟩] before after := by
  cases written with
  | kept => exact Disk.adds_refl _ _ _
  | written vacant written => exact Disk.adds_writeText vacant written
  | refused => exact Disk.adds_refl _ _ _

theorem PagesWritten.adds (written : PagesWritten docs overwrite pages before result after) :
    Disk.Adds overwrite (pages.map fun page => docs.join ⟨page.1⟩) before after := by
  induction written with
  | done => exact Disk.adds_refl _ _ _
  | stopped first => exact first.adds.trans (Disk.adds_refl overwrite _ _)
  | next first _ ih => exact first.adds.trans ih

theorem Scaffold.isFileName : ∀ page ∈ Scaffold.pages, IsFileName page.1 := by
  decide

theorem siteDirOf_named (config : Path) : (siteDirOf config).text ≠ "" := by
  unfold siteDirOf
  split
  · split
    · decide
    · next named => simpa using named
  · decide

theorem docsOf_named (config : Path) : (docsOf config).text ≠ "" := by
  rw [docsOf, Path.join, if_neg (by decide)]
  split
  · simp
  · simp

theorem Path.ofNames_singleton (name : String) : ofNames [name] = ⟨name⟩ := by
  simp [ofNames, Text.joinWith]

/-- A path below the documentation directory leads below the place of that directory. -/
theorem locate_docsOf (isName : Path.IsName page.1)
    (located : disk.locate ((docsOf config).join ⟨page.1⟩) = .ok names) :
    ∃ place, disk.locate (docsOf config) = .ok place ∧ names = place ++ [page.1] := by
  rw [← Path.ofNames_singleton] at located
  exact Disk.locate_of_join (docsOf_named config) (by simpa using isName) (List.cons_ne_nil _ _) located

/-- A page leads to a place next to the configuration. -/
theorem locate_page (isName : Path.IsName page.1)
    (located : disk.locate ((docsOf config).join ⟨page.1⟩) = .ok names) :
    ∃ front, disk.locate (siteDirOf config) = .ok front ∧ names = front ++ ["docs", page.1] := by
  have isDocs : Path.IsName "docs" := ⟨by decide, by decide, by decide, by decide⟩
  obtain ⟨place, inDocs, rfl⟩ := locate_docsOf isName located
  rw [docsOf, ← Path.ofNames_singleton] at inDocs
  obtain ⟨front, inSite, rfl⟩ :=
    Disk.locate_of_join (siteDirOf_named config) (by simpa using isDocs) (List.cons_ne_nil _ _) inDocs
  exact ⟨front, inSite, by simp⟩

/-- **Nothing but the files of the new site is changed.** -/
theorem Started.others (started : Started config overwrite disk result after) (names : List String) :
    (∃ front name, after.locate config = .ok (front ++ [name]) ∧ names ∈ Scaffold.places front name) ∨
      ∀ content, after.spot? names = some (.file content) ↔ disk.spot? names = some (.file content) := by
  cases started with
  | present => exact .inr fun _ => Iff.rfl
  | refused _ keeps => exact .inr fun content => keeps.files names content
  | @begun middle written _ _ _ keeps wrote pages =>
    obtain ⟨place, -, located, -, stands⟩ := Disk.writeText_eq_ok wrote
    have adds := pages.adds
    have isFile : written.spot? place = some (.file (.text Scaffold.config)) := by
      rw [stands, if_pos rfl]
    obtain ⟨front, name, rfl, inSite⟩ := Disk.locate_siteDirOf located (by rw [isFile]; simp)
    have leads := Disk.locate_keeps adds.directories located
    rcases adds.elsewhere names with same | ⟨-, path, member, isPage⟩
    · by_cases isConfig : names = front ++ [name]
      · exact .inl ⟨front, name, leads, isConfig ▸ List.mem_cons_self⟩
      · refine .inr fun content => ?_
        rw [same, stands, if_neg isConfig]
        exact keeps.files names content
    · obtain ⟨page, inPages, rfl⟩ := List.mem_map.mp member
      obtain ⟨other, sameSite, rfl⟩ := locate_page (Scaffold.isFileName page inPages).toIsName isPage
      rw [Disk.locate_keeps adds.directories inSite] at sameSite
      obtain rfl := Except.ok.inj sameSite
      exact .inl ⟨front, name, leads, List.mem_cons_of_mem _ (List.mem_map.mpr ⟨page, inPages, rfl⟩)⟩

/-- A path goes up again behind a directory that is missing, so what it leads to is not seen. -/
def Disk.Unseen (disk : Disk) (path : Path) : Prop :=
  disk.locate path = .error .notFound ∧ ".." ∈ path.pieces

/-- A path that leads somewhere once directories were created led there before, unless nothing stood there
or the path was unseen. -/
theorem Disk.Keeps.unseen {path : Path} (keeps : before.Keeps after)
    (located : after.locate path = .ok names) (found : before.spot? names ≠ none)
    (notHeld : before.holds path = false) : before.Unseen path := by
  cases led : before.locate path with
  | ok place =>
    rw [Disk.locate_keeps keeps.directories led] at located
    obtain rfl := Except.ok.inj located
    rw [Disk.holds_iff.mpr ⟨place, led, found⟩] at notHeld
    cases notHeld
  | error cause =>
    have missing : cause = .notFound := by
      by_contra present
      rw [Disk.locate_error_keeps keeps led present] at located
      cases located
    subst missing
    refine ⟨led, ?_⟩
    by_contra climbs
    exact found (Disk.spot?_of_missing keeps.directories climbs led located)

/-- **Without leave to overwrite, a file stays as it is**, unless it is the configuration and was not
seen. -/
theorem Started.kept {content : FileContent} (started : Started config false disk result after)
    (isFile : disk.spot? names = some (.file content)) :
    after.spot? names = some (.file content) ∨
      after.locate config = .ok names ∧ disk.Unseen config := by
  cases started with
  | present => exact .inl isFile
  | refused _ keeps => exact .inl ((keeps.files names content).mpr isFile)
  | @begun middle written _ _ absent keeps wrote pages =>
    obtain ⟨place, led, located, -, stands⟩ := Disk.writeText_eq_ok wrote
    have adds := pages.adds
    have stays := (keeps.files names content).mpr isFile
    by_cases isConfig : names = place
    · subst isConfig
      have found : disk.spot? names ≠ none := by simp [isFile]
      exact .inr ⟨Disk.locate_keeps adds.directories located,
        keeps.unseen led found (absent.resolve_left Bool.false_ne_true)⟩
    · have inWritten : written.spot? names = some (.file content) := by
        rw [stands, if_neg isConfig, stays]
      rcases adds.elsewhere names with same | ⟨impossible | nothing, -⟩
      · exact .inl (same.trans inWritten)
      · cases impossible
      · rw [inWritten] at nothing
        cases nothing

/-- Where something is at the path of the configuration, nothing is done. -/
theorem Started.eq_of_holds (started : Started config false disk result after)
    (held : disk.holds config = true) : after = disk := by
  cases started with
  | present => rfl
  | refused absent => simp [held] at absent
  | begun absent => simp [held] at absent

/-- A site that was started has something at the path of its configuration. -/
theorem Started.holds (started : Started config false disk (.ok ()) after) :
    after.holds config = true := by
  cases started with
  | present _ held => exact held
  | begun _ _ wrote pages =>
    obtain ⟨place, -, located, -, stands⟩ := Disk.writeText_eq_ok wrote
    refine pages.adds.holds (Disk.holds_iff.mpr ⟨place, located, ?_⟩)
    simp [stands]

end Changes

/-! ## The command -/

/-- The command takes the steps, and it succeeds exactly if they do. -/
theorem runOn_init (config : Path) (overwrite verbose : Bool) (disk : Disk) :
    ∃ result, Started config overwrite disk result
        ((Command.init overwrite).runOn config verbose disk).2 ∧
      (((Command.init overwrite).runOn config verbose disk).1.exitCode = 0 ↔ result = .ok ()) := by
  have started := runInit_started config overwrite [] disk
  cases ran : (runInit config overwrite : Task (StateM Disk) Unit).on [] disk with
  | mk outcome after =>
    obtain ⟨result, said⟩ := outcome
    rw [ran] at started
    refine ⟨result, ?_⟩
    cases result with
    | error failure =>
      have whole : ((Command.init overwrite).run config .inOrder).on [] disk =
          ((.error failure, said), after) := by
        rw [Command.run, Task.on_bind_error ran]
      rw [runOn_error whole]
      exact ⟨started, by simp⟩
    | ok done =>
      have whole : ((Command.init overwrite).run config .inOrder).on [] disk =
          ((.ok "", said), after) := by
        rw [Command.run, Task.on_bind_ok ran, Task.on_pure]
      rw [runOn_ok whole]
      exact ⟨started, by simp⟩

/-- **What starting a site leaves as it is.** -/
structure SparesFiles (config : Path) (verbose : Bool) (disk : Disk) : Prop where
  /-- Without leave to overwrite, every file keeps its content, unless the path of the configuration is
  unseen; then only the file that it leads to may be lost. -/
  kept : ∀ names content, disk.spot? names = some (.file content) →
    ((Command.init false).runOn config verbose disk).2.spot? names = some (.file content) ∨
      ((Command.init false).runOn config verbose disk).2.locate config = .ok names ∧
        disk.Unseen config
  /-- Where the path of the configuration leads to a file, nothing is created. -/
  present : ∀ names content, disk.locate config = .ok names →
    disk.spot? names = some (.file content) →
      ((Command.init false).runOn config verbose disk).2 = disk
  /-- Once it has succeeded, the command changes nothing any more. -/
  again : ((Command.init false).runOn config verbose disk).1.exitCode = 0 → ∀ verbose',
    ((Command.init false).runOn config verbose' ((Command.init false).runOn config verbose disk).2).2 =
      ((Command.init false).runOn config verbose disk).2
  /-- With leave to overwrite or without, only the configuration and the pages next to it are written. -/
  others : ∀ overwrite names, (∃ front name,
      ((Command.init overwrite).runOn config verbose disk).2.locate config = .ok (front ++ [name]) ∧
        names ∈ Scaffold.places front name) ∨
    ∀ content, ((Command.init overwrite).runOn config verbose disk).2.spot? names =
      some (.file content) ↔ disk.spot? names = some (.file content)

/-- **Starting a site overwrites nothing without leave**, as long as the path of the configuration does not
go up again behind a missing directory. -/
theorem init_spares (config : Path) (verbose : Bool) (disk : Disk) :
    SparesFiles config verbose disk := by
  obtain ⟨result, started, succeeds⟩ := runOn_init config false verbose disk
  refine ⟨fun names content => started.kept, fun names content located isFile => ?_,
    fun succeeded verbose' => ?_, fun overwrite names => ?_⟩
  · exact started.eq_of_holds (Disk.holds_iff.mpr ⟨names, located, by simp [isFile]⟩)
  · rw [succeeds.mp succeeded] at started
    obtain ⟨other, again, -⟩ := runOn_init config false verbose' _
    exact again.eq_of_holds started.holds
  · obtain ⟨other, begun, -⟩ := runOn_init config overwrite verbose disk
    exact begun.others names

/-- A disk with the configuration of a site that somebody has written. -/
def mineDisk : Disk := { top := .directory [("portico.toml", .file (.text "title = \"Mine\"\n"))] }

/-- The configuration is lost if its path goes through a directory that does not exist yet: the command
succeeds, and it has created a directory and two pages, too. -/
theorem init_overwrites_unseen :
    mineDisk.spot? ["portico.toml"] = some (.file (.text "title = \"Mine\"\n")) ∧
      mineDisk.Unseen ⟨"new/../portico.toml"⟩ ∧
      ((Command.init false).runOn ⟨"new/../portico.toml"⟩ false mineDisk).1.exitCode = 0 ∧
      ((Command.init false).runOn ⟨"new/../portico.toml"⟩ false mineDisk).2.spot? ["portico.toml"] =
        some (.file (.text Scaffold.config)) ∧
      ((Command.init false).runOn ⟨"new/../portico.toml"⟩ false mineDisk).2.spot? ["new"] =
        some .directory ∧
      Scaffold.config ≠ "title = \"Mine\"\n" := by
  have isUnseen : mineDisk.Unseen ⟨"new/../portico.toml"⟩ := ⟨by decide +kernel, by decide +kernel⟩
  -- What the run comes to is read off one evaluation of it.
  have runs : let run := (Command.init false).runOn ⟨"new/../portico.toml"⟩ false mineDisk
      run.1.exitCode = 0 ∧ run.2.spot? ["portico.toml"] = some (.file (.text Scaffold.config)) ∧
        run.2.spot? ["new"] = some .directory := by
    decide +kernel
  exact ⟨by decide +kernel, isUnseen, runs.1, runs.2.1, runs.2.2, by decide +kernel⟩

end Docsite
