/-
**Running commands.**

* `SiteConfig.load`: the configuration in a file.
* `Request.carryOut`: does what a command line asks for. What is not decided by the files is in which
  order files fail that are read side by side.
-/

import Docsite.Check.Checker
import Docsite.CommandLine.Failure
import Docsite.CommandLine.Help
import Docsite.CommandLine.Scaffold
import Docsite.Config.Export
import Docsite.Config.Source

namespace Docsite

variable {m : Type → Type} [Monad m] [Storage m]

/-! ## Tasks -/

/-- Work that may fail and gives notices on the way. -/
abbrev Task (m : Type → Type) := ExceptT Failure (StateT (List Notice) m)

namespace Task

/-- Gives one notice. -/
def give (notice : Notice) : Task m Unit :=
  modify (· ++ [notice])

/-- The value of a computation, with its notices. -/
def keep {α : Type} (logged : Logged α) : Task m α := do
  modify (· ++ logged.notices)
  return logged.value

/-- The value of a computation that may be refused; a refusal is a failure. -/
def need {α ε : Type} (failure : ε → Failure) (outcome : Except ε α) : Task m α :=
  match outcome with
  | .ok value => pure value
  | .error error => throw (failure error)

/-- Asks the storage. -/
def ask {α : Type} (access : m α) : Task m α :=
  liftM access

end Task

/-! ## Loading -/

/-- The configuration in a file. The name of the file decides on its format before it is read. -/
def SiteConfig.load (path : Path) : m (Logged (Except ConfigError SiteConfig)) := do
  match ConfigFormat.ofPath? path with
  | none => return pure (.error (.unsupportedFormat path))
  | some format =>
    match ← Storage.readText path with
    | .error cause => return pure (.error (.unreadable path cause))
    | .ok source => return do
        let outcome ← (SiteConfig.ofSource format source).run
        Logged.giveIf outcome.toOption.isSome (.configLoaded path)
        return outcome

/-- The directory of the site whose configuration is in a file. -/
def siteDirOf (config : Path) : Path :=
  match config.parent? with
  | some parent => if parent.text == "" then ⟨"."⟩ else parent
  | none => ⟨"."⟩

/-! ## Commands -/

/-- Loads the configuration of a site. -/
def loadConfig (path : Path) : Task m SiteConfig := do
  let loaded ← Task.ask (SiteConfig.load path)
  Task.need (.invalidConfig path) (← Task.keep loaded)

/-- Checks the links of a site under its policies. -/
def enforceLinks (config : SiteConfig) (siteDir : Path) (race : Race) : Task m Enforcement := do
  let discovered ← Task.ask (ContentTree.discover siteDir config race)
  let tree ← Task.need (.contentUnusable siteDir) (← Task.keep discovered)
  let report ← Task.keep (checkLinks config tree)
  Task.need .checkFailed (← Task.keep (report.enforce config))

/-- Writes a file that messages call by the given name. -/
def writeFile (path : Path) (name text : String) : Task m Unit := do
  Task.need (.fileRefused name) (← Task.ask (Storage.writeText path text))

/-- Writes a page of a new site into the documentation directory, unless there is one already. -/
def writePage (docs : Path) (overwrite : Bool) (name text : String) : Task m Unit := do
  let path := docs.join ⟨name⟩
  if overwrite || !(← Task.ask (Storage.holds path)) then
    writeFile path name text
    Task.give (.fileCreated s!"docs/{name}")

/-- Creates a site to start from. -/
def runInit (config : Path) (overwrite : Bool) : Task m Unit := do
  Task.give .initStarted
  if !overwrite && (← Task.ask (Storage.holds config)) then
    Task.give (.alreadyExists config)
  else
    let docs := (siteDirOf config).join ⟨"docs"⟩
    Task.need .docsDirectoryRefused (← Task.ask (Storage.createDirectories docs))
    writeFile config config.text Scaffold.config
    Task.give (.fileCreated config.text)
    writePage docs overwrite "intro.md" Scaffold.intro
    writePage docs overwrite "getting-started.md" Scaffold.gettingStarted
    Task.give .initFinished
    Task.give .initHint

/-- Checks the configuration and the links of a site. -/
def runCheck (config : Path) (siteDir : Option Path) (race : Race) : Task m Unit := do
  let site ← loadConfig config
  Task.give (.checkStarted site.title)
  let outcome ← enforceLinks site (siteDir.getD (siteDirOf config)) race
  let milliseconds ← Task.ask Storage.elapsed
  Task.give (.checkPassed milliseconds outcome.warned outcome.logged outcome.ignored)

/-- Writes an exported configuration to a file, in directories that are created if need be. -/
def writeExport (path : Path) (text : String) : Task m Unit := do
  match path.parent? with
  | none => pure ()
  | some parent =>
    if parent.text != "" then
      Task.need (.directoryRefused parent) (← Task.ask (Storage.createDirectories parent))
  writeFile path path.text text
  Task.give (.configExported path)

/-- Exports the configuration of a site; gives what is printed. -/
def runExport (config : Path) (siteDir output : Option Path) (skipLinks : Bool) (race : Race) :
    Task m String := do
  let site ← loadConfig config
  if skipLinks then Task.give .checkSkipped
  else
    let _ ← enforceLinks site (siteDir.getD (siteDirOf config)) race
  match output with
  | some path =>
    writeExport path site.exported
    return ""
  | none => return site.exported ++ "\n"

/-- Carries out a command; gives what is printed. -/
def Command.run (command : Command) (config : Path) (race : Race) : Task m String :=
  match command with
  | .init overwrite => do
    runInit config overwrite
    return ""
  | .check siteDir => do
    runCheck config siteDir race
    return ""
  | .export siteDir output skipLinks => runExport config siteDir output skipLinks race

/-! ## Outcomes -/

/-- What is seen of a run of the program. -/
structure Outcome where
  exitCode : Nat := 0
  /-- What is printed. -/
  output : String := ""
  notices : List Notice := []
  failure : Option Failure := none
  /-- What is said about a command line that asks for nothing. -/
  complaint : String := ""
  deriving DecidableEq, Repr

/-- A notice as it is shown. -/
def Notice.line (notice : Notice) : String :=
  let label := notice.level.label
  String.ofList (List.replicate (5 - label.length) ' ') ++ label ++ " " ++ notice.message ++ "\n"

/-- What is shown beside the output: the notices, then why the command failed. -/
def Outcome.diagnostics (outcome : Outcome) : String :=
  let failure := outcome.failure.map fun failure => "Error: " ++ failure.report ++ "\n"
  String.join (outcome.notices.map Notice.line) ++ failure.getD "" ++ outcome.complaint

/-- Whether a notice is shown. -/
def Notice.isShown (verbose : Bool) (notice : Notice) : Bool :=
  verbose || notice.level != .debug

/-- The outcome of a command. -/
def Outcome.ofTask (verbose : Bool) (result : Except Failure String × List Notice) : Outcome :=
  let notices := result.2.filter (Notice.isShown verbose)
  match result.1 with
  | .ok output => { output, notices }
  | .error failure => { exitCode := 1, notices, failure := some failure }

/-- Does what a command line asks for. -/
def Request.carryOut (request : Request) (race : Race := .inOrder) : m Outcome :=
  match request with
  | .run config verbose command => do
    return Outcome.ofTask verbose (← ((command.run config race).run.run []))
  | .help none => return { output := Help.printed Help.program }
  | .help (some name) => return { output := Help.printed (Help.command name) }
  | .helpOnHelp => return { output := Help.printed Help.help }
  | .version => return { output := Help.version }
  | .misuse => return { exitCode := 2, complaint := Help.printed Help.complaint }

end Docsite
