/-
**Checking and exporting.**

A check and an export of the same site come to the same decision: the configuration loads, the content
is discovered, and no list of findings is stopped by its policy. Neither changes a file before that is
decided, and an export into a file changes that file alone. Where both fail, they report the same, unless
several files cannot be used: each command reads them anew, and reports the one that fails first.

* `PassesOn`: the sites that pass their check.
* `SameReport`: failures that a check and an export of one site report.
* `FileWritten`: what writing a file comes to.
* `export_follows_check`: both commands on any disk.
-/

import Docsite.Proofs.Check.Enforcement
import Docsite.Proofs.CommandLine.Task
import Docsite.Proofs.Config.Reload
import Docsite.Proofs.Storage.Writing

namespace Docsite

/-! ## Sites that pass -/

/-- The configuration in a file of a disk loads. -/
def SiteConfig.LoadsOn (disk : Disk) (path : Path) (site : SiteConfig) : Prop :=
  (SiteConfig.loadOn disk path).value = .ok site

/-- The content of a site is discovered, and neither of the lists of its findings is stopped. -/
def LinksPass (disk : Disk) (site : SiteConfig) (siteDir : Path) : Prop :=
  ∃ tree, ContentTree.DiscoveredOn disk siteDir site tree ∧
    ¬ site.onBrokenMarkdownLinks.Stops (checkLinks site tree).value.brokenReferences ∧
    ¬ site.onBrokenLinks.Stops (checkLinks site tree).value.brokenLinks

/-- A site passes its check: its configuration loads and its links pass. -/
structure PassesOn (disk : Disk) (config : Path) (siteDir : Option Path) (site : SiteConfig) : Prop where
  loads : SiteConfig.LoadsOn disk config site
  links : LinksPass disk site (siteDir.getD (siteDirOf config))

section Values

variable {disk : Disk} {config : Path} {siteDir : Option Path} {site : SiteConfig}

theorem mapError_eq_ok {α ε ε' : Type} {f : ε → ε'} {outcome : Except ε α} {a : α} :
    outcome.mapError f = .ok a ↔ outcome = .ok a := by
  cases outcome <;> simp [Except.mapError]

theorem configAccount_eq_ok :
    (configAccount disk config).run.value = .ok site ↔ SiteConfig.LoadsOn disk config site := by
  simp only [configAccount, Task.Account.value_bind, Task.Account.value_keep, Task.Account.value_need,
    bind_eq_ok_iff, mapError_eq_ok, Except.ok.injEq, exists_eq_left', SiteConfig.LoadsOn]

/-- A report passes exactly if neither of its lists is stopped. -/
theorem exists_enforce_eq_ok {report : LinkReport} :
    (∃ handled, (report.enforce site).value = .ok handled) ↔
      ¬ site.onBrokenMarkdownLinks.Stops report.brokenReferences ∧
        ¬ site.onBrokenLinks.Stops report.brokenLinks := by
  by_cases references : site.onBrokenMarkdownLinks.Stops report.brokenReferences
  · rw [(LinkReport.enforce_of_references references).1]
    simp [references]
  by_cases links : site.onBrokenLinks.Stops report.brokenLinks
  · rw [LinkReport.enforce_of_links references links]
    simp [links]
  · rw [LinkReport.enforce_of_both_passed references links]
    simp [references, links]

theorem value_linksAccount {siteDir : Path} {race : Race} :
    (linksAccount disk site siteDir race).run.value =
      (ContentTree.discoverOn disk siteDir site race).value.mapError (.contentUnusable siteDir) >>=
        fun tree => (((checkLinks site tree).value.enforce site).value).mapError .checkFailed := by
  simp only [linksAccount, Task.Account.value_bind, Task.Account.value_keep, Task.Account.value_need]
  rfl

/-- **The links of a site are enforced without a failure exactly if they pass.** -/
theorem exists_linksAccount_eq_ok {siteDir : Path} (race : Race) :
    (∃ handled, (linksAccount disk site siteDir race).run.value = .ok handled) ↔
      LinksPass disk site siteDir := by
  simp only [value_linksAccount, bind_eq_ok_iff, mapError_eq_ok,
    ContentTree.discoverOn_eq_ok]
  rw [exists_comm]
  simp only [exists_and_left, exists_enforce_eq_ok]
  rfl

end Values

/-! ## What the commands read -/

/-- The configuration of a site that may be exported, as far as a command gets with it. -/
def admissionAccount (disk : Disk) (config : Path) (siteDir : Option Path) (skipLinks : Bool)
    (race : Race) : Task.Account SiteConfig := do
  let site ← configAccount disk config
  if skipLinks then Task.Account.keep (Logged.give .checkSkipped)
  else
    let _ ← linksAccount disk site (siteDir.getD (siteDirOf config)) race
  return site

/-- The part of an export in which it is decided. -/
def decideExport (config : Path) (siteDir : Option Path) (skipLinks : Bool) (race : Race) :
    Task (StateM Disk) SiteConfig := do
  let site ← loadConfig config
  if skipLinks then Task.give .checkSkipped
  else
    let _ ← enforceLinks site (siteDir.getD (siteDirOf config)) race
  return site

/-- What a check comes to. -/
def checkAccount (disk : Disk) (config : Path) (siteDir : Option Path) (race : Race) :
    Task.Account Unit := do
  let site ← configAccount disk config
  Task.Account.keep (Logged.give (.checkStarted site.title))
  let outcome ← linksAccount disk site (siteDir.getD (siteDirOf config)) race
  Task.Account.keep (Logged.give (.checkPassed "N" outcome.warned outcome.logged outcome.ignored))

/-- What becomes of an exported configuration: it is written to a file or printed. -/
def handOver (output : Option Path) (site : SiteConfig) : Task (StateM Disk) String :=
  match output with
  | some path => do
    writeExport path site.exported
    return ""
  | none => return site.exported ++ "\n"

section Commands

variable {disk : Disk} {config : Path} {siteDir output : Option Path} {skipLinks : Bool}
  {site : SiteConfig} {given : List Notice} {race : Race}

/-- **A check leaves the disk as it is.** -/
theorem reads_runCheck (disk : Disk) (config : Path) (siteDir : Option Path) (race : Race) :
    (runCheck config siteDir race).Reads disk (checkAccount disk config siteDir race) := by
  refine .bind (reads_loadConfig disk config) fun site => .bind (Task.reads_give _) fun _ => ?_
  refine .bind (reads_enforceLinks disk site _ race) fun outcome => ?_
  exact Task.reads_ask_bind rfl (Task.reads_give _)

theorem reads_decideExport (disk : Disk) (config : Path) (siteDir : Option Path) (skipLinks : Bool)
    (race : Race) : (decideExport config siteDir skipLinks race).Reads disk
      (admissionAccount disk config siteDir skipLinks race) := by
  refine .bind (reads_loadConfig disk config) fun site => ?_
  cases skipLinks with
  | true => exact .bind (Task.reads_give _) fun _ => Task.reads_pure site
  | false => exact .bind (reads_enforceLinks disk site _ race) fun _ => Task.reads_pure site

theorem runExport_eq :
    (runExport config siteDir output skipLinks race : Task (StateM Disk) String) =
      decideExport config siteDir skipLinks race >>= handOver output := by
  rw [runExport, decideExport, bind_assoc]
  congr 1
  funext site
  cases skipLinks with
  | true =>
    rw [if_pos rfl, if_pos rfl, bind_assoc]
    rfl
  | false =>
    rw [if_neg Bool.false_ne_true, if_neg Bool.false_ne_true, bind_assoc]
    rfl

/-- **What is exported is decided before anything is written.** -/
theorem runExport_on_ok (output : Option Path) (given : List Notice)
    (admitted : (admissionAccount disk config siteDir skipLinks race).run.value = .ok site) :
    ∃ said, (runExport config siteDir output skipLinks race).on given disk =
      (handOver output site).on said disk := by
  have ran := reads_decideExport disk config siteDir skipLinks race given
  rw [admitted] at ran
  rw [runExport_eq]
  exact ⟨_, Task.on_bind_ok ran⟩

theorem runExport_on_error (output : Option Path) (given : List Notice) {failure : Failure}
    (refused : (admissionAccount disk config siteDir skipLinks race).run.value = .error failure) :
    ∃ said, (runExport config siteDir output skipLinks race).on given disk =
      ((.error failure, said), disk) := by
  have ran := reads_decideExport disk config siteDir skipLinks race given
  rw [refused] at ran
  rw [runExport_eq]
  exact ⟨_, Task.on_bind_error ran⟩

/-- A site is admitted exactly if it loads and, unless that is skipped, its links pass. -/
theorem admissionAccount_eq_ok :
    (admissionAccount disk config siteDir skipLinks race).run.value = .ok site ↔
      SiteConfig.LoadsOn disk config site ∧
        (skipLinks = true ∨ LinksPass disk site (siteDir.getD (siteDirOf config))) := by
  rw [← exists_linksAccount_eq_ok race, ← configAccount_eq_ok, admissionAccount, Task.Account.value_bind,
    bind_eq_ok_iff]
  cases skipLinks with
  | true =>
    simp only [reduceIte, Task.Account.value_bind, Task.Account.value_keep, Task.Account.value_pure,
      bind_eq_ok_iff, Except.ok.injEq, exists_const, true_and, exists_eq_right, true_or, and_true]
  | false =>
    simp only [Bool.false_eq_true, reduceIte, Task.Account.value_bind, Task.Account.value_pure,
      bind_eq_ok_iff, Except.ok.injEq, false_or]
    constructor
    · rintro ⟨item, loads, handled, passes, rfl⟩
      exact ⟨loads, handled, passes⟩
    · rintro ⟨loads, handled, passes⟩
      exact ⟨site, loads, handled, passes, rfl⟩

/-- A site is refused because it does not load or because its links are not enforced. -/
theorem admissionAccount_eq_error {failure : Failure} :
    (admissionAccount disk config siteDir false race).run.value = .error failure ↔
      (configAccount disk config).run.value = .error failure ∨
        ∃ site, SiteConfig.LoadsOn disk config site ∧
          (linksAccount disk site (siteDir.getD (siteDirOf config)) race).run.value =
            .error failure := by
  simp only [admissionAccount, Bool.false_eq_true, reduceIte, Task.Account.value_bind,
    Task.Account.value_pure, bind_eq_error_iff, configAccount_eq_ok, reduceCtorEq, and_false,
    exists_false, or_false]

/-- **A check comes to what an export of the same site would be decided on.** -/
theorem value_checkAccount : (checkAccount disk config siteDir race).run.value =
    (admissionAccount disk config siteDir false race).run.value.map fun _ => () := by
  rw [checkAccount, admissionAccount, Task.Account.value_bind, Task.Account.value_bind]
  cases (configAccount disk config).run.value with
  | error failure => rfl
  | ok site =>
    show (linksAccount disk site _ race >>= _).run.value =
      Except.map _ (linksAccount disk site _ race >>= _).run.value
    rw [Task.Account.value_bind, Task.Account.value_bind]
    cases (linksAccount disk site _ race).run.value with
    | error failure => rfl
    | ok handled => rfl

theorem runCheck_on_ok (given : List Notice)
    (admitted : (admissionAccount disk config siteDir false race).run.value = .ok site) :
    ∃ said, (runCheck config siteDir race).on given disk = ((.ok (), said), disk) := by
  have ran := reads_runCheck disk config siteDir race given
  rw [value_checkAccount, admitted] at ran
  exact ⟨_, ran⟩

theorem runCheck_on_error (given : List Notice) {failure : Failure}
    (refused : (admissionAccount disk config siteDir false race).run.value = .error failure) :
    ∃ said, (runCheck config siteDir race).on given disk = ((.error failure, said), disk) := by
  have ran := reads_runCheck disk config siteDir race given
  rw [value_checkAccount, refused] at ran
  exact ⟨_, ran⟩

end Commands

/-! ## Writing a file -/

/-- What writing a file comes to: either it is refused and no file is changed, or the file holds the text
and every other file is as it was. -/
inductive FileWritten (before : Disk) (path : Path) (text : String) :
    Except Failure Unit → Disk → Prop
  | refused {failure : Failure} {after : Disk} : before.SameFiles after →
      FileWritten before path text (.error failure) after
  | written {names : List String} {after : Disk} : after.locate path = .ok names →
      after.readText path = .ok text →
      (∀ other content, other ≠ names →
        (after.spot? other = some (.file content) ↔ before.spot? other = some (.file content))) →
      FileWritten before path text (.ok ()) after

/-- A task writes a text to a file, whatever disk it runs on. -/
def WritesFile (task : Task (StateM Disk) Unit) (path : Path) (text : String) : Prop :=
  ∀ given before, FileWritten before path text (task.on given before).1.1 (task.on given before).2

section Writing

variable {before middle after : Disk} {path : Path} {text : String}
  {task : Task (StateM Disk) Unit}

/-- Where the files are the same, a file is written like on the other disk. -/
theorem FileWritten.of_sameFiles {result : Except Failure Unit} (same : before.SameFiles middle)
    (written : FileWritten middle path text result after) :
    FileWritten before path text result after := by
  cases written with
  | refused unchanged =>
    exact .refused fun names content => (unchanged names content).trans (same names content)
  | written located reads others =>
    exact .written located reads fun other content elsewhere =>
      (others other content elsewhere).trans (same other content)

theorem writeFile_on_ok (name : String) {given : List Notice}
    (written : before.writeText path text = .ok after) :
    (writeFile path name text).on given before = ((.ok (), given), after) := by
  rw [writeFile, Task.on_bind_ok (Task.on_ask _), Disk.run_writeText_ok written]
  rfl

theorem writeFile_on_error (name : String) {given : List Notice} {cause : FileError}
    (refused : before.writeText path text = .error cause) :
    (writeFile path name text).on given before =
      ((.error (.fileRefused name cause), given), before) := by
  rw [writeFile, Task.on_bind_ok (Task.on_ask _), Disk.run_writeText_error refused]
  rfl

theorem writesFile_writeFile (path : Path) (name text : String) :
    WritesFile (writeFile path name text) path text := by
  intro given before
  cases written : before.writeText path text with
  | error cause =>
    rw [writeFile_on_error name written]
    exact .refused fun _ _ => Iff.rfl
  | ok after =>
    rw [writeFile_on_ok name written]
    obtain ⟨names, -, located, -, stands⟩ := Disk.writeText_eq_ok written
    refine .written located (Disk.readText_of_spot? located ?_) fun other content elsewhere => ?_
    · rw [stands, if_pos rfl]
    · rw [stands, if_neg elsewhere]

/-- A notice behind it does not matter. -/
theorem WritesFile.give (writes : WritesFile task path text) (notice : Notice) :
    WritesFile (task >>= fun _ => Task.give notice) path text := by
  intro given before
  have written := writes given before
  cases ran : task.on given before with
  | mk outcome after =>
    obtain ⟨result, said⟩ := outcome
    rw [ran] at written
    cases result with
    | error failure =>
      rw [Task.on_bind_error ran]
      exact written
    | ok done =>
      rw [Task.on_bind_ok ran]
      exact written

theorem ask_createDirectories {given : List Notice} {result : Except FileError Unit}
    (created : (Disk.createDirectories (path.pieces.length + 1) path).run before = (result, middle)) :
    (Task.ask (Storage.createDirectories path)).on given before = ((.ok result, given), middle) := by
  rw [Task.on_ask]
  show ((Except.ok ((Disk.createDirectories (path.pieces.length + 1) path).run before).1, given),
    ((Disk.createDirectories (path.pieces.length + 1) path).run before).2) = _
  rw [created]

/-- Neither do directories that are created before it. -/
theorem WritesFile.afterDirectories (writes : WritesFile task path text) (parent : Path) :
    WritesFile (do
      Task.need (.directoryRefused parent) (← Task.ask (Storage.createDirectories parent))
      task) path text := by
  intro given before
  have spared := Disk.spares_createDirectories (parent.pieces.length + 1) parent before
  cases created : (Disk.createDirectories (parent.pieces.length + 1) parent).run before with
  | mk result middle =>
    rw [created] at spared
    rw [Task.on_bind_ok (ask_createDirectories created)]
    cases result with
    | error cause =>
      exact .refused spared.files
    | ok done =>
      exact (writes given middle).of_sameFiles spared.files

/-- **Writing an exported configuration changes no file but the one that its path leads to.** -/
theorem writesFile_writeExport (path : Path) (text : String) :
    WritesFile (writeExport path text) path text := by
  have writes : WritesFile (do
      writeFile path path.text text
      Task.give (.configExported path)) path text := (writesFile_writeFile path path.text text).give _
  rw [writeExport]
  cases path.parent? with
  | none => exact writes
  | some parent =>
    dsimp only
    split
    · exact writes.afterDirectories parent
    · exact writes

end Writing

/-! ## Commands on a disk -/

/-- What is seen of a command on a disk, and the disk as the command leaves it. -/
def Command.runOn (command : Command) (config : Path) (verbose : Bool) (disk : Disk)
    (race : Race := .inOrder) : Outcome × Disk :=
  ((Request.run config verbose command).carryOut race : StateM Disk Outcome).run disk

/-- What a check and an export of one site report: the same, or one of the files that cannot be used each. -/
inductive SameReport (disk : Disk) (config : Path) (siteDir : Option Path) :
    Option Failure → Option Failure → Prop
  | same (failure : Option Failure) : SameReport disk config siteDir failure failure
  | raced {site : SiteConfig} {error other : ContentError} : SiteConfig.LoadsOn disk config site →
      error ≠ other → ContentTree.FailsOn disk (siteDir.getD (siteDirOf config)) site error →
      ContentTree.FailsOn disk (siteDir.getD (siteDirOf config)) site other →
      SameReport disk config siteDir
        (some (.contentUnusable (siteDir.getD (siteDirOf config)) error))
        (some (.contentUnusable (siteDir.getD (siteDirOf config)) other))

/-- How a check and a printed export of one site go together, whatever their races come to. -/
structure Agrees (disk : Disk) (config : Path) (siteDir : Option Path)
    (check print : Race → Outcome × Disk) : Prop where
  /-- Neither changes anything. -/
  unchanged : ∀ race, (check race).2 = disk ∧ (print race).2 = disk
  /-- A check succeeds exactly for the sites that pass. -/
  passes : ∀ race, (check race).1.exitCode = 0 ↔ ∃ site, PassesOn disk config siteDir site
  /-- An export succeeds exactly if the check does. -/
  sameExit : ∀ race other, (print other).1.exitCode = 0 ↔ (check race).1.exitCode = 0
  /-- Both report the same failure, or a file each of several that cannot be used. -/
  sameReport : ∀ race other,
    SameReport disk config siteDir (check race).1.failure (print other).1.failure
  /-- In the same race both report the same failure. -/
  sameFailure : ∀ race, (print race).1.failure = (check race).1.failure
  /-- A site that passes is printed, with a line feed behind it, and it is loaded from what is printed. -/
  printed : ∀ race site, PassesOn disk config siteDir site →
    (print race).1.output = site.exported ++ "\n" ∧ site.ReloadsFrom site.exported
  /-- Where the check fails, there is a failure to report and nothing is printed. -/
  silent : ∀ race other, (check race).1.exitCode ≠ 0 →
    (check race).1.failure ≠ none ∧ (print other).1.output = ""

/-- What an export into a file does to a disk. -/
structure WritesAtMost (disk : Disk) (config : Path) (siteDir : Option Path) (output : Path)
    (skipLinks : Bool) (write : Outcome × Disk) : Prop where
  /-- Every file but the one that is named is as it was. -/
  others : ∀ names content, write.2.locate output ≠ .ok names →
    (write.2.spot? names = some (.file content) ↔ disk.spot? names = some (.file content))
  /-- Nothing is touched, no directory either, unless the configuration loads and the links pass or are
  skipped. -/
  untouched : (¬ ∃ site, SiteConfig.LoadsOn disk config site ∧
      (skipLinks = true ∨ LinksPass disk site (siteDir.getD (siteDirOf config)))) →
    write.1.exitCode ≠ 0 ∧ write.2 = disk
  /-- Where the export fails, no file is changed. -/
  refused : write.1.exitCode ≠ 0 → disk.SameFiles write.2
  /-- Where it succeeds, the file holds the exported configuration, which is loaded from there. -/
  content : write.1.exitCode = 0 → ∃ site, SiteConfig.LoadsOn disk config site ∧
    (skipLinks = true ∨ LinksPass disk site (siteDir.getD (siteDirOf config))) ∧
      write.2.readText output = .ok site.exported ∧ site.ReloadsFrom site.exported

section Runs

variable {command : Command} {disk after : Disk} {config : Path} {siteDir : Option Path} {verbose : Bool}
  {said : List Notice} {race : Race}

theorem runOn_ok {output : String}
    (ran : (command.run config race).on [] disk = ((.ok output, said), after)) :
    command.runOn config verbose disk race =
      ({ output, notices := said.filter (Notice.isShown verbose) }, after) := by
  show (Outcome.ofTask verbose ((command.run config race).on [] disk).1,
    ((command.run config race).on [] disk).2) = _
  rw [ran]
  rfl

theorem runOn_error {failure : Failure}
    (ran : (command.run config race).on [] disk = ((.error failure, said), after)) :
    command.runOn config verbose disk race =
      ({ exitCode := 1, notices := said.filter (Notice.isShown verbose), failure := some failure },
        after) := by
  show (Outcome.ofTask verbose ((command.run config race).on [] disk).1,
    ((command.run config race).on [] disk).2) = _
  rw [ran]
  rfl

theorem runOn_check_ok (verbose : Bool) {site : SiteConfig}
    (admitted : (admissionAccount disk config siteDir false race).run.value = .ok site) :
    ∃ notices, (Command.check siteDir).runOn config verbose disk race = ({ notices }, disk) := by
  obtain ⟨said, ran⟩ := runCheck_on_ok [] admitted
  have whole : ((Command.check siteDir).run config race).on [] disk = ((.ok "", said), disk) := by
    rw [Command.run, Task.on_bind_ok ran, Task.on_pure]
  exact ⟨_, runOn_ok whole⟩

theorem runOn_check_error (verbose : Bool) {failure : Failure}
    (refused : (admissionAccount disk config siteDir false race).run.value = .error failure) :
    ∃ notices, (Command.check siteDir).runOn config verbose disk race =
      ({ exitCode := 1, notices, failure := some failure }, disk) := by
  obtain ⟨said, ran⟩ := runCheck_on_error [] refused
  have whole : ((Command.check siteDir).run config race).on [] disk = ((.error failure, said), disk) := by
    rw [Command.run, Task.on_bind_error ran]
  exact ⟨_, runOn_error whole⟩

theorem runOn_export_error (verbose : Bool) (output : Option Path) {skipLinks : Bool} {failure : Failure}
    (refused : (admissionAccount disk config siteDir skipLinks race).run.value = .error failure) :
    ∃ notices, (Command.export siteDir output skipLinks).runOn config verbose disk race =
      ({ exitCode := 1, notices, failure := some failure }, disk) := by
  obtain ⟨said, ran⟩ := runExport_on_error output [] refused
  exact ⟨_, runOn_error ran⟩

theorem runOn_print_ok (verbose : Bool) {skipLinks : Bool} {site : SiteConfig}
    (admitted : (admissionAccount disk config siteDir skipLinks race).run.value = .ok site) :
    ∃ notices, (Command.export siteDir none skipLinks).runOn config verbose disk race =
      ({ output := site.exported ++ "\n", notices }, disk) := by
  obtain ⟨said, ran⟩ := runExport_on_ok none [] admitted
  rw [handOver, Task.on_pure] at ran
  exact ⟨_, runOn_ok ran⟩

/-- Where a site is admitted, an export into a file writes it there. -/
theorem runOn_write_ok (verbose : Bool) (output : Path) {skipLinks : Bool} {site : SiteConfig}
    (admitted : (admissionAccount disk config siteDir skipLinks race).run.value = .ok site) :
    ∃ result, FileWritten disk output site.exported result
        ((Command.export siteDir (some output) skipLinks).runOn config verbose disk race).2 ∧
      (((Command.export siteDir (some output) skipLinks).runOn config verbose disk race).1.exitCode = 0 ↔
        result = .ok ()) := by
  obtain ⟨given, ran⟩ := runExport_on_ok (some output) [] admitted
  have written := writesFile_writeExport output site.exported given disk
  cases wrote : (writeExport output site.exported).on given disk with
  | mk outcome after =>
    obtain ⟨result, said⟩ := outcome
    rw [wrote] at written
    refine ⟨result, ?_⟩
    cases result with
    | error failure =>
      rw [handOver, Task.on_bind_error wrote] at ran
      have exported : (Command.export siteDir (some output) skipLinks).runOn config verbose disk race = _ :=
        runOn_error ran
      rw [exported]
      exact ⟨written, by simp⟩
    | ok done =>
      rw [handOver, Task.on_bind_ok wrote, Task.on_pure] at ran
      have exported : (Command.export siteDir (some output) skipLinks).runOn config verbose disk race = _ :=
        runOn_ok ran
      rw [exported]
      exact ⟨written, by simp⟩

end Runs

section Races

variable {disk : Disk} {config : Path} {siteDir : Option Path} {site : SiteConfig} {race : Race}
  {failure : Failure}

/-- **Where the links of a site are not enforced, they are not in any race**, for the same reason or
because of another file. -/
theorem linksAccount_race {dir : Path}
    (refused : (linksAccount disk site dir race).run.value = .error failure) (other : Race) :
    (linksAccount disk site dir other).run.value = .error failure ∨
      ∃ error error', error ≠ error' ∧ ContentTree.FailsOn disk dir site error ∧
        ContentTree.FailsOn disk dir site error' ∧ failure = .contentUnusable dir error ∧
        (linksAccount disk site dir other).run.value = .error (.contentUnusable dir error') := by
  rw [value_linksAccount] at refused ⊢
  cases found : (ContentTree.discoverOn disk dir site race).value with
  | ok tree =>
    have again : (ContentTree.discoverOn disk dir site other).value = .ok tree :=
      ContentTree.discoverOn_eq_ok.mpr (ContentTree.discoverOn_eq_ok.mp found)
    rw [found] at refused
    rw [again]
    exact .inl refused
  | error error =>
    rw [found] at refused
    obtain rfl : .contentUnusable dir error = failure := Except.error.inj refused
    cases foundOther : (ContentTree.discoverOn disk dir site other).value with
    | ok tree =>
      have again : (ContentTree.discoverOn disk dir site race).value = .ok tree :=
        ContentTree.discoverOn_eq_ok.mpr (ContentTree.discoverOn_eq_ok.mp foundOther)
      rw [found] at again
      cases again
    | error error' =>
      by_cases same : error = error'
      · rw [same]
        exact .inl rfl
      · exact .inr ⟨error, error', same, ContentTree.exists_discover_eq_error.mp ⟨race, found⟩,
          ContentTree.exists_discover_eq_error.mp ⟨other, foundOther⟩, rfl, rfl⟩

/-- **A site that is refused is refused in every race**, with the same report. -/
theorem admissionAccount_race
    (refused : (admissionAccount disk config siteDir false race).run.value = .error failure)
    (other : Race) :
    ∃ failure', (admissionAccount disk config siteDir false other).run.value = .error failure' ∧
      SameReport disk config siteDir (some failure) (some failure') := by
  rcases admissionAccount_eq_error.mp refused with failed | ⟨site, loads, failed⟩
  · exact ⟨failure, admissionAccount_eq_error.mpr (.inl failed), .same _⟩
  · rcases linksAccount_race failed other with
      again | ⟨error, error', different, fails, fails', rfl, again⟩
    · exact ⟨failure, admissionAccount_eq_error.mpr (.inr ⟨site, loads, again⟩), .same _⟩
    · exact ⟨_, admissionAccount_eq_error.mpr (.inr ⟨site, loads, again⟩),
        .raced loads different fails fails'⟩

end Races

section Agreement

variable (disk : Disk) (config : Path) (siteDir : Option Path) (verbose : Bool)

/-- A configuration that was loaded is loaded again from its export. -/
theorem SiteConfig.LoadsOn.reloadsFrom {disk : Disk} {config : Path} {site : SiteConfig}
    (loads : SiteConfig.LoadsOn disk config site) : site.ReloadsFrom site.exported := by
  obtain ⟨format, source, given⟩ := SiteConfig.exists_source_of_loadOn loads
  exact SiteConfig.reloadsFrom_exported given

theorem passesOn_iff {disk : Disk} {config : Path} {siteDir : Option Path} {site : SiteConfig}
    (race : Race) : (admissionAccount disk config siteDir false race).run.value = .ok site ↔
      PassesOn disk config siteDir site := by
  rw [admissionAccount_eq_ok]
  constructor
  · rintro ⟨loads, impossible | links⟩
    · cases impossible
    · exact ⟨loads, links⟩
  · rintro ⟨loads, links⟩
    exact ⟨loads, .inr links⟩

theorem agrees_check_export : Agrees disk config siteDir
    ((Command.check siteDir).runOn config verbose disk ·)
    ((Command.export siteDir none false).runOn config verbose disk ·) := by
  by_cases isPassed : ∃ site, PassesOn disk config siteDir site
  · obtain ⟨site, passed⟩ := isPassed
    have checked (race : Race) := runOn_check_ok verbose ((passesOn_iff race).mpr passed)
    have exported (race : Race) := runOn_print_ok verbose ((passesOn_iff race).mpr passed)
    choose said checked using checked
    choose others exported using exported
    have only (other : SiteConfig) (isOther : PassesOn disk config siteDir other) : other = site :=
      Except.ok.inj (((passesOn_iff .inOrder).mpr isOther).symm.trans
        ((passesOn_iff .inOrder).mpr passed))
    simp only [checked, exported]
    exact {
      unchanged := fun _ => ⟨rfl, rfl⟩
      passes := fun _ => iff_of_true rfl ⟨site, passed⟩
      sameExit := fun _ _ => Iff.rfl
      sameReport := fun _ _ => .same none
      sameFailure := fun _ => rfl
      printed := fun _ other isOther => by
        rw [only other isOther]
        exact ⟨rfl, passed.loads.reloadsFrom⟩
      silent := fun _ _ failed => absurd rfl failed }
  · have refused (race : Race) : ∃ failure,
        (admissionAccount disk config siteDir false race).run.value = .error failure := by
      cases decided : (admissionAccount disk config siteDir false race).run.value with
      | error failure => exact ⟨failure, rfl⟩
      | ok site => exact absurd ⟨site, (passesOn_iff race).mp decided⟩ isPassed
    choose failure refused using refused
    choose said checked using fun race => runOn_check_error verbose (refused race)
    choose others exported using fun race => runOn_export_error verbose none (refused race)
    have sameReport (race other : Race) :
        SameReport disk config siteDir (some (failure race)) (some (failure other)) := by
      obtain ⟨again, decided, same⟩ := admissionAccount_race (refused race) other
      rw [refused other] at decided
      rwa [← Except.error.inj decided] at same
    simp only [checked, exported]
    exact {
      unchanged := fun _ => ⟨rfl, rfl⟩
      passes := fun _ => iff_of_false nofun isPassed
      sameExit := fun _ _ => Iff.rfl
      sameReport := sameReport
      sameFailure := fun _ => rfl
      printed := fun _ site passed => absurd ⟨site, passed⟩ isPassed
      silent := fun _ _ _ => ⟨nofun, rfl⟩ }

theorem writesAtMost_export (output : Path) (skipLinks : Bool) (race : Race) :
    WritesAtMost disk config siteDir output skipLinks
      ((Command.export siteDir (some output) skipLinks).runOn config verbose disk race) := by
  cases decided : (admissionAccount disk config siteDir skipLinks race).run.value with
  | error failure =>
    obtain ⟨said, exported⟩ := runOn_export_error verbose (some output) decided
    rw [exported]
    exact {
      others := fun _ _ _ => Iff.rfl
      untouched := fun _ => ⟨nofun, rfl⟩
      refused := fun _ _ _ => Iff.rfl
      content := nofun }
  | ok site =>
    have admitted := admissionAccount_eq_ok.mp decided
    obtain ⟨result, written, succeeds⟩ := runOn_write_ok verbose output decided
    generalize (Command.export siteDir (some output) skipLinks).runOn config verbose disk race = write
      at written succeeds
    obtain ⟨outcome, after⟩ := write
    cases written with
    | refused unchanged =>
      exact {
        others := fun names content _ => unchanged names content
        untouched := fun nowhere => absurd ⟨site, admitted⟩ nowhere
        refused := fun _ => unchanged
        content := fun succeeded => nomatch succeeds.mp succeeded }
    | written located reads others =>
      exact {
        others := fun names content elsewhere =>
          others names content fun same => elsewhere (same ▸ located)
        untouched := fun nowhere => absurd ⟨site, admitted⟩ nowhere
        refused := fun failed => absurd (succeeds.mpr rfl) failed
        content := fun _ => ⟨site, admitted.1, admitted.2, reads, admitted.1.reloadsFrom⟩ }

/-- **A check and an export agree, and a failure writes nothing.** On every disk and in every race, a check
changes nothing and succeeds exactly for the sites that pass; an export without an output file prints these
sites and no others, and fails where the check does. It then reports what the check reports, unless several
files cannot be used; each command reports one of these. An export into a file changes that file alone, it
touches nothing unless the site is admitted, and where it succeeds the file holds the exported
configuration. -/
theorem export_follows_check :
    Agrees disk config siteDir ((Command.check siteDir).runOn config verbose disk ·)
        ((Command.export siteDir none false).runOn config verbose disk ·) ∧
      ∀ output skipLinks race, WritesAtMost disk config siteDir output skipLinks
        ((Command.export siteDir (some output) skipLinks).runOn config verbose disk race) :=
  ⟨agrees_check_export disk config siteDir verbose,
    fun output skipLinks race => writesAtMost_export disk config siteDir verbose output skipLinks race⟩

end Agreement

/-- A site with one page. -/
def linkedDisk (page : String) : Disk := { top := .directory [
  ("docs", .directory [("intro.md", .file (.text page))]),
  ("site.json", .file (.text
    "\x7b\"title\": \"Site\", \"url\": \"https://example.org\", \"baseUrl\": \"/\"\x7d"))] }

/-- What is exported of it. -/
def linkedExport : String :=
  String.intercalate "\n" [
    "\x7b",
    "  \"title\": \"Site\",",
    "  \"tagline\": null,",
    "  \"url\": \"https://example.org\",",
    "  \"baseUrl\": \"/\",",
    "  \"favicon\": null,",
    "  \"onBrokenLinks\": \"throw\",",
    "  \"onBrokenMarkdownLinks\": \"warn\",",
    "  \"trailingSlash\": null,",
    "  \"organizationName\": null,",
    "  \"projectName\": null,",
    "  \"deploymentBranch\": null,",
    "  \"headTags\": [],",
    "  \"docs\": \x7b",
    "    \"path\": \"docs\",",
    "    \"routeBasePath\": \"docs\"",
    "  \x7d,",
    "  \"pages\": \x7b",
    "    \"path\": \"src/pages\"",
    "  \x7d,",
    "  \"staticDirectories\": [",
    "    \"static\"",
    "  ],",
    "  \"theme\": \x7b\x7d,",
    "  \"themeConfig\": \x7b",
    "    \"navbar\": \x7b",
    "      \"items\": []",
    "    \x7d",
    "  \x7d",
    "\x7d"]

/-- A site whose page links to itself is printed, and exported into a new directory. Where the page links to
nothing, the check fails and the export creates nothing, not even the directory. -/
theorem export_follows_check_linked :
    (∃ site, PassesOn (linkedDisk "[here](/docs/intro)") ⟨"site.json"⟩ none site ∧
      ((Command.export none none false).runOn ⟨"site.json"⟩ false
        (linkedDisk "[here](/docs/intro)")).1.output = linkedExport ++ "\n" ∧
      ((Command.export none (some ⟨"out/site.json"⟩) false).runOn ⟨"site.json"⟩ false
        (linkedDisk "[here](/docs/intro)")).2.readText ⟨"out/site.json"⟩ = .ok linkedExport ∧
      site.ReloadsFrom linkedExport) ∧
    (¬ ∃ site, PassesOn (linkedDisk "[gone](/gone)") ⟨"site.json"⟩ none site) ∧
      ((Command.export none (some ⟨"out/site.json"⟩) false).runOn ⟨"site.json"⟩ false
        (linkedDisk "[gone](/gone)")).2 = linkedDisk "[gone](/gone)" := by
  have exported : ((Command.export none (some ⟨"out/site.json"⟩) false).runOn ⟨"site.json"⟩ false
      (linkedDisk "[here](/docs/intro)")).1.exitCode = 0 := by
    decide +kernel
  have written : ((Command.export none (some ⟨"out/site.json"⟩) false).runOn ⟨"site.json"⟩ false
      (linkedDisk "[here](/docs/intro)")).2.readText ⟨"out/site.json"⟩ = .ok linkedExport := by
    decide +kernel
  have failed : ((Command.check none).runOn ⟨"site.json"⟩ false
      (linkedDisk "[gone](/gone)")).1.exitCode ≠ 0 := by
    decide +kernel
  obtain ⟨agrees, writes⟩ :=
    export_follows_check (linkedDisk "[here](/docs/intro)") ⟨"site.json"⟩ none false
  obtain ⟨site, loads, impossible | links, reads, reloads⟩ :=
    (writes ⟨"out/site.json"⟩ false .inOrder).content exported
  · cases impossible
  have isExport : site.exported = linkedExport := Except.ok.inj (reads.symm.trans written)
  have printed := (agrees.printed .inOrder site ⟨loads, links⟩).1
  rw [isExport] at printed reloads
  obtain ⟨goneAgrees, goneWrites⟩ :=
    export_follows_check (linkedDisk "[gone](/gone)") ⟨"site.json"⟩ none false
  have nowhere : ¬ ∃ site, PassesOn (linkedDisk "[gone](/gone)") ⟨"site.json"⟩ none site :=
    fun isPassed => failed ((goneAgrees.passes .inOrder).mpr isPassed)
  refine ⟨⟨site, ⟨loads, links⟩, printed, written, reloads⟩, nowhere,
    ((goneWrites ⟨"out/site.json"⟩ false .inOrder).untouched ?_).2⟩
  rintro ⟨other, otherLoads, impossible | otherLinks⟩
  · cases impossible
  · exact nowhere ⟨other, otherLoads, otherLinks⟩

/-- A site with two pages that cannot be used: the frontmatter of one is not closed, and the other one is
no text. -/
def brokenDisk : Disk := { top := .directory [
  ("docs", .directory [("a.md", .file (.text "---\ntitle: A\n")), ("b.md", .file .binary)]),
  ("site.json", .file (.text
    "\x7b\"title\": \"Site\", \"url\": \"https://example.org\", \"baseUrl\": \"/\"\x7d"))] }

/-- A check in which one page is the first to fail, and an export in which the other one is, report
different files. -/
theorem export_reports_other :
    let check := ((Command.check none).runOn ⟨"site.json"⟩ false brokenDisk
      (.wonBy (.badFrontmatter ⟨"./docs/a.md"⟩ .unclosed))).1
    let print := ((Command.export none none false).runOn ⟨"site.json"⟩ false brokenDisk
      (.wonBy (.unreadable ⟨"./docs/b.md"⟩ .notUtf8))).1
    check.exitCode = 1 ∧ print.exitCode = 1 ∧
      check.failure =
        some (.contentUnusable ⟨"."⟩ (.badFrontmatter ⟨"./docs/a.md"⟩ .unclosed)) ∧
      print.failure = some (.contentUnusable ⟨"."⟩ (.unreadable ⟨"./docs/b.md"⟩ .notUtf8)) ∧
      print.failure ≠ check.failure := by
  decide +kernel

end Docsite
