/-
**Tasks on a disk.**

A task that only reads is known by what it reads: on a given disk it comes to a result and some notices, and
it leaves the disk as it is. Loading a configuration and checking the links of a site are such tasks.

* `Task.Reads`: a task that reads, with one law for each way to put tasks together.
* `reads_loadConfig`, `reads_enforceLinks`: what the parts of the commands read.
-/

import Docsite.CommandLine.Run
import Docsite.Proofs.Content.Discovery

namespace Docsite

namespace Task

variable {α β : Type} {task : Task (StateM Disk) α} {next : α → Task (StateM Disk) β}
  {disk after : Disk} {given said : List Notice}

/-- What becomes of a task on a disk, after some notices: its result, all notices, and the disk as the task
leaves it. -/
def on (task : Task (StateM Disk) α) (given : List Notice) (disk : Disk) :
    (Except Failure α × List Notice) × Disk :=
  (task.run.run given).run disk

/-! ## One task after another -/

theorem on_pure (a : α) : (pure a : Task (StateM Disk) α).on given disk = ((.ok a, given), disk) :=
  rfl

theorem on_ask (access : StateM Disk α) :
    (ask access).on given disk = ((.ok (access.run disk).1, given), (access.run disk).2) :=
  rfl

theorem on_bind_ok {a : α} (ran : task.on given disk = ((.ok a, said), after)) :
    (task >>= next).on given disk = (next a).on said after := by
  unfold on at ran ⊢
  rw [ExceptT.run_bind, StateT.run_bind, StateT.run_bind, ran]
  rfl

/-- A failure ends a task. -/
theorem on_bind_error {failure : Failure} (ran : task.on given disk = ((.error failure, said), after)) :
    (task >>= next).on given disk = ((.error failure, said), after) := by
  unfold on at ran ⊢
  rw [ExceptT.run_bind, StateT.run_bind, StateT.run_bind, ran]
  rfl

/-! ## Reading -/

/-- What a task that only reads comes to: a result or a failure, and the notices on the way. -/
abbrev Account (α : Type) := ExceptT Failure Logged α

namespace Account

/-- The value of a computation, with its notices. -/
def keep (logged : Logged α) : Account α :=
  ExceptT.lift logged

/-- The value of a computation that may be refused; a refusal is a failure. -/
def need {ε : Type} (failure : ε → Failure) (outcome : Except ε α) : Account α :=
  ExceptT.mk (pure (outcome.mapError failure))

theorem value_bind (account : Account α) (further : α → Account β) :
    (account >>= further).run.value = (account.run.value >>= fun a => (further a).run.value) := by
  rw [ExceptT.run_bind, Logged.value_bind]
  cases account.run.value <;> rfl

theorem value_pure (a : α) : (pure a : Account α).run.value = .ok a :=
  rfl

theorem value_keep (logged : Logged α) : (keep logged).run.value = .ok logged.value :=
  rfl

theorem value_need {ε : Type} (failure : ε → Failure) (outcome : Except ε α) :
    (need failure outcome).run.value = outcome.mapError failure :=
  rfl

end Account

/-- A task leaves a disk as it is, and on that disk it comes to what an account says. -/
def Reads (task : Task (StateM Disk) α) (disk : Disk) (account : Account α) : Prop :=
  ∀ given, task.on given disk = ((account.run.value, given ++ account.run.notices), disk)

theorem reads_pure (a : α) : Reads (pure a) disk (pure a) := by
  intro given
  rw [on_pure]
  simp

theorem reads_give (notice : Notice) : Reads (give notice) disk (Account.keep (Logged.give notice)) :=
  fun _ => rfl

theorem reads_keep (logged : Logged α) : Reads (keep logged) disk (Account.keep logged) := by
  intro given
  have said : (Account.keep logged).run.notices = logged.notices := List.append_nil _
  rw [said]
  rfl

theorem reads_need {ε : Type} (failure : ε → Failure) (outcome : Except ε α) :
    Reads (need failure outcome) disk (Account.need failure outcome) := by
  intro given
  have said : (Account.need failure outcome).run.notices = [] := rfl
  rw [said, List.append_nil]
  cases outcome with
  | ok value => rfl
  | error error => rfl

/-- **One task after another reads what both read.** -/
theorem Reads.bind {account : Account α} {further : α → Account β} (first : task.Reads disk account)
    (second : ∀ a, (next a).Reads disk (further a)) :
    (task >>= next).Reads disk (account >>= further) := by
  intro given
  have ran := first given
  rw [ExceptT.run_bind, Logged.value_bind, Logged.notices_bind]
  cases result : account.run.value with
  | ok a =>
    rw [result] at ran
    rw [on_bind_ok ran, second a, List.append_assoc]
  | error failure =>
    rw [result] at ran
    rw [on_bind_error ran]
    simp

/-- An access that leaves the disk as it is hands on what it finds. -/
theorem reads_ask_bind {access : StateM Disk α} {a : α} {account : Account β}
    (reads : access.run disk = (a, disk)) (second : (next a).Reads disk account) :
    (ask access >>= next).Reads disk account := by
  intro given
  have ran : (ask access).on given disk = ((.ok a, given), disk) := by rw [on_ask, reads]
  rw [on_bind_ok ran, second]

end Task

/-! ## Loading a configuration -/

/-- The configuration in a file of a disk. -/
def SiteConfig.loadOn (disk : Disk) (path : Path) : Logged (Except ConfigError SiteConfig) :=
  ((SiteConfig.load path : StateM Disk _).run disk).1

/-- Loading a configuration leaves the disk as it is. -/
theorem SiteConfig.run_load (disk : Disk) (path : Path) :
    (SiteConfig.load path : StateM Disk _).run disk = (SiteConfig.loadOn disk path, disk) := by
  have stays : ((SiteConfig.load path : StateM Disk _).run disk).2 = disk := by
    unfold SiteConfig.load
    cases ConfigFormat.ofPath? path with
    | none => rfl
    | some format =>
      have asked : (Storage.readText path : StateM Disk _).run disk = (disk.readText path, disk) := rfl
      rw [StateT.run_bind, asked]
      cases disk.readText path <;> rfl
  rw [SiteConfig.loadOn]
  generalize (SiteConfig.load path : StateM Disk _).run disk = ran at stays ⊢
  obtain ⟨loaded, after⟩ := ran
  exact congrArg (loaded, ·) stays

/-- A configuration is what its text is read as in the format that its path names. -/
theorem SiteConfig.loadOn_value {disk : Disk} {path : Path} {format : ConfigFormat} {source : String}
    (supported : ConfigFormat.ofPath? path = some format) (reads : disk.readText path = .ok source) :
    (SiteConfig.loadOn disk path).value = (SiteConfig.ofSource format source).run.value := by
  have asked : (Storage.readText path : StateM Disk _).run disk = (.ok source, disk) := by
    rw [← reads]
    rfl
  have loaded : (SiteConfig.load path : StateM Disk _).run disk =
      (do
        let outcome ← (SiteConfig.ofSource format source).run
        Logged.giveIf outcome.toOption.isSome (.configLoaded path)
        return outcome, disk) := by
    unfold SiteConfig.load
    rw [supported]
    dsimp only
    rw [StateT.run_bind, asked]
    rfl
  rw [loadOn, loaded]
  dsimp only
  rw [Logged.value_bind]
  generalize (SiteConfig.ofSource format source).run.value = checked
  rfl

/-- A configuration whose file is not read is not loaded. -/
theorem SiteConfig.loadOn_unread {disk : Disk} {path : Path} {cause : FileError}
    (refused : disk.readText path = .error cause) :
    ∃ error, SiteConfig.loadOn disk path = pure (.error error) := by
  have asked : (Storage.readText path : StateM Disk _).run disk = (.error cause, disk) := by
    rw [← refused]
    rfl
  unfold loadOn SiteConfig.load
  cases ConfigFormat.ofPath? path with
  | none => exact ⟨.unsupportedFormat path, rfl⟩
  | some format =>
    dsimp only
    rw [StateT.run_bind, asked]
    exact ⟨.unreadable path cause, rfl⟩

/-- A configuration that is loaded was read in some format. -/
theorem SiteConfig.exists_source_of_loadOn {disk : Disk} {path : Path} {site : SiteConfig}
    (loaded : (SiteConfig.loadOn disk path).value = .ok site) :
    ∃ format source, (SiteConfig.ofSource format source).run.value = .ok site := by
  cases reads : disk.readText path with
  | error cause =>
    obtain ⟨error, refused⟩ := loadOn_unread reads
    rw [refused] at loaded
    cases loaded
  | ok source =>
    cases supported : ConfigFormat.ofPath? path with
    | none =>
      have refused : SiteConfig.loadOn disk path = pure (.error (.unsupportedFormat path)) := by
        unfold loadOn SiteConfig.load
        rw [supported]
        rfl
      rw [refused] at loaded
      cases loaded
    | some format => exact ⟨format, source, (loadOn_value supported reads).symm.trans loaded⟩

/-- The configuration of a site, as far as a command gets with it. -/
def configAccount (disk : Disk) (path : Path) : Task.Account SiteConfig := do
  Task.Account.need (.invalidConfig path) (← Task.Account.keep (SiteConfig.loadOn disk path))

theorem reads_loadConfig (disk : Disk) (path : Path) :
    (loadConfig path).Reads disk (configAccount disk path) :=
  Task.reads_ask_bind (SiteConfig.run_load disk path)
    (.bind (Task.reads_keep _) fun _ => Task.reads_need _ _)

/-! ## Checking the links -/

/-- The content of a site on a disk, with the notices on the way. -/
def ContentTree.discoverOn (disk : Disk) (siteDir : Path) (config : SiteConfig) (race : Race) :
    Logged (Except ContentError ContentTree) :=
  ((discover siteDir config race : StateM Disk _).run disk).1

theorem ContentTree.discoverOn_eq_ok {disk : Disk} {siteDir : Path} {config : SiteConfig}
    {race : Race} {tree : ContentTree} :
    (discoverOn disk siteDir config race).value = .ok tree ↔ DiscoveredOn disk siteDir config tree :=
  value_discover_eq_ok

/-- What follows from the links of a site, as far as a command gets with them. -/
def linksAccount (disk : Disk) (config : SiteConfig) (siteDir : Path) (race : Race) :
    Task.Account Enforcement := do
  let discovered ← Task.Account.keep (ContentTree.discoverOn disk siteDir config race)
  let tree ← Task.Account.need (.contentUnusable siteDir) discovered
  let report ← Task.Account.keep (checkLinks config tree)
  Task.Account.need .checkFailed (← Task.Account.keep (report.enforce config))

theorem reads_enforceLinks (disk : Disk) (config : SiteConfig) (siteDir : Path) (race : Race) :
    (enforceLinks config siteDir race).Reads disk (linksAccount disk config siteDir race) := by
  have stays : (ContentTree.discover siteDir config race : StateM Disk _).run disk =
      (ContentTree.discoverOn disk siteDir config race, disk) := by
    rw [ContentTree.discoverOn, ContentTree.run_discover]
  unfold enforceLinks linksAccount
  refine Task.reads_ask_bind stays (.bind (Task.reads_keep _) fun discovered => ?_)
  refine .bind (Task.reads_need _ _) fun tree => .bind (Task.reads_keep _) fun report => ?_
  exact .bind (Task.reads_keep _) fun outcome => Task.reads_need _ _

end Docsite
