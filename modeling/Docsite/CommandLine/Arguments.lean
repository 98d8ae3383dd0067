/-
**Command lines.**

The words of a command line are options, which start with a dash, and the name of a command. The
options before the name belong to the program, those behind it to the command.

* `Request.ofWords`: what a command line asks for.
-/

import Docsite.Path

namespace Docsite

/-! ## Requests -/

/-- What the program can be told to do. -/
inductive Command where
  /-- Create a site to start from. -/
  | init (overwrite : Bool)
  /-- Check the configuration and the links of a site. -/
  | check (siteDir : Option Path)
  /-- Print the configuration of a site, or write it to a file. -/
  | export (siteDir : Option Path) (output : Option Path) (skipLinks : Bool)
  deriving DecidableEq, Repr

/-- The name of a command. -/
inductive CommandName where
  | init
  | check
  | export
  deriving DecidableEq, Repr

/-- The word for a command. -/
def CommandName.word : CommandName → String
  | .init => "init"
  | .check => "check"
  | .export => "export"

/-- The command that a word names. -/
def CommandName.ofWord? (word : String) : Option CommandName :=
  [CommandName.init, .check, .export].find? (·.word == word)

/-- What a command line asks for. -/
inductive Request where
  | run (config : Path) (verbose : Bool) (command : Command)
  /-- An explanation of the program or of one command. -/
  | help (topic : Option CommandName)
  /-- An explanation of the command that gives explanations. -/
  | helpOnHelp
  | version
  /-- Nothing that could be done. -/
  | misuse
  deriving DecidableEq, Repr

/-! ## Options -/

/-- An option that is understood. -/
structure OptionSpec where
  name : String
  /-- The letter that stands for the name. -/
  letter : Option Char
  takesValue : Bool

/-- The option that asks for an explanation. -/
def helpOption : OptionSpec :=
  { name := "help", letter := some 'h', takesValue := false }

/-- The option that asks for the version. -/
def versionOption : OptionSpec :=
  { name := "version", letter := some 'V', takesValue := false }

/-- The options of the program. -/
def programOptions : List OptionSpec :=
  [{ name := "config", letter := some 'c', takesValue := true },
    { name := "verbose", letter := some 'v', takesValue := false }, helpOption, versionOption]

/-- The options of a command. -/
def CommandName.options : CommandName → List OptionSpec
  | .init => [{ name := "yes", letter := some 'y', takesValue := false }, helpOption]
  | .check => [{ name := "site-dir", letter := some 's', takesValue := true }, helpOption]
  | .export =>
    [{ name := "site-dir", letter := some 's', takesValue := true },
      { name := "output", letter := some 'o', takesValue := true },
      { name := "skip-links", letter := none, takesValue := false }, helpOption]

/-- The options that were given, each with its value, empty for one that takes none. -/
abbrev Settings := List (String × String)

namespace Settings

/-- Whether an option was given. -/
def has (settings : Settings) (name : String) : Bool :=
  (settings.lookup name).isSome

/-- The path that was given as the value of an option. -/
def path? (settings : Settings) (name : String) : Option Path :=
  (settings.lookup name).map Path.mk

end Settings

/-- Why reading options stopped early. -/
inductive Interruption where
  | help
  | version
  | misuse
  deriving DecidableEq, Repr

/-- Where reading options stands. A value in a word of its own counts only when the next option is
read or no more words follow. -/
structure OptionReader where
  specs : List OptionSpec
  settings : Settings := []
  /-- The option whose value was read last but does not count yet. -/
  pending : Option (String × String) := none

namespace OptionReader

/-- The options that count. An option must not be given twice, and a value must not be empty. -/
def settle (reader : OptionReader) : Except Interruption OptionReader :=
  match reader.pending with
  | none => .ok reader
  | some (name, value) =>
    if reader.settings.has name || value == "" then .error .misuse
    else .ok { reader with settings := reader.settings ++ [(name, value)], pending := none }

/-- Takes an option that has no value. -/
def takeFlag (reader : OptionReader) (name : String) : Except Interruption OptionReader := do
  let reader ← reader.settle
  if name == "help" then .error .help
  else if name == "version" then .error .version
  else if reader.settings.has name then .error .misuse
  else .ok { reader with settings := reader.settings ++ [(name, "")] }

/-- Takes an option together with its value. -/
def takeValue (reader : OptionReader) (name value : String) :
    Except Interruption OptionReader := do
  let reader ← reader.settle
  { reader with pending := some (name, value) }.settle

/-- Reads a run of letters behind a dash. The last letter may stand for an option that takes a
value: the rest of the word, or the next word. Gives the option that waits for the next word. -/
def letters (reader : OptionReader) :
    List Char → Except Interruption (OptionReader × Option String)
  | [] => .ok (reader, none)
  | letter :: rest =>
    match reader.specs.find? (·.letter == some letter) with
    | none => .error .misuse
    | some spec =>
      if !spec.takesValue then do letters (← reader.takeFlag spec.name) rest
      else match rest with
        | [] => do return (← reader.settle, some spec.name)
        | '=' :: value => do return (← reader.takeValue spec.name (String.ofList value), none)
        | value => do return (← reader.takeValue spec.name (String.ofList value), none)
termination_by cs => cs.length

/-- Reads a name behind two dashes, with its value if there is an equals sign. Gives the option that
waits for the next word. -/
def long (reader : OptionReader) (word : List Char) :
    Except Interruption (OptionReader × Option String) :=
  let name := word.takeWhile (· != '=')
  match reader.specs.find? (·.name == String.ofList name), word.drop name.length with
  | none, _ => .error .misuse
  | some spec, '=' :: value =>
    if spec.takesValue then do
      return (← reader.takeValue spec.name (String.ofList value), none)
    else .error .misuse
  | some spec, _ =>
    if spec.takesValue then do return (← reader.settle, some spec.name)
    else do return (← reader.takeFlag spec.name, none)

/-- Reads options up to the first word that is none. Two dashes alone end the options; nothing may
follow them. -/
def readAll (reader : OptionReader) (waiting : Option String) :
    List String → Except Interruption (OptionReader × List String)
  | [] => if waiting.isSome then .error .misuse else .ok (reader, [])
  | word :: rest =>
    match waiting, word.toList with
    | some _, '-' :: _ :: _ => .error .misuse
    | some name, _ => readAll { reader with pending := some (name, word) } none rest
    | none, ['-', '-'] => if rest.isEmpty then .ok (reader, []) else .error .misuse
    | none, '-' :: '-' :: name => do
      let (reader, waiting) ← reader.long name
      readAll reader waiting rest
    | none, '-' :: letter :: letters => do
      let (reader, waiting) ← reader.letters (letter :: letters)
      readAll reader waiting rest
    | none, _ => .ok (reader, word :: rest)

end OptionReader

/-! ## Commands -/

/-- The command of a name with its options. -/
def CommandName.command (name : CommandName) (settings : Settings) : Command :=
  match name with
  | .init => .init (settings.has "yes")
  | .check => .check (settings.path? "site-dir")
  | .export =>
    .export (settings.path? "site-dir") (settings.path? "output") (settings.has "skip-links")

/-- The command of a name with the words behind it. -/
def CommandName.read (name : CommandName) (words : List String) : Except Interruption Command := do
  let (reader, rest) ← OptionReader.readAll { specs := name.options } none words
  if rest.isEmpty then return name.command (← reader.settle).settings else .error .misuse

namespace Request

/-- The file that holds the configuration unless another one is named. -/
def defaultConfig : Path :=
  ⟨"portico.toml"⟩

/-- What the words behind the name of the command that gives explanations ask for. -/
def ofHelpWords (words : List String) : Request :=
  match words with
  | [] => .help none
  | [word] =>
    if word == "help" then .helpOnHelp
    else match CommandName.ofWord? word with
      | some name => .help (some name)
      | none => .misuse
  | _ => .misuse

/-- What an interruption asks for. -/
def ofInterruption (topic : Option CommandName) : Interruption → Request
  | .help => .help topic
  | .version => .version
  | .misuse => .misuse

/-- What the name of a command and the words behind it ask for. -/
def ofCommand (reader : OptionReader) (name : CommandName) (words : List String) : Request :=
  match name.read words, reader.settle with
  | .error stop, _ => ofInterruption (some name) stop
  | .ok _, .error stop => ofInterruption none stop
  | .ok command, .ok reader =>
    let config := (reader.settings.path? "config").getD defaultConfig
    .run config (reader.settings.has "verbose") command

/-- What a command line asks for. -/
def ofWords (words : List String) : Request :=
  match OptionReader.readAll { specs := programOptions } none words with
  | .error stop => ofInterruption none stop
  | .ok (_, []) => .misuse
  | .ok (reader, word :: rest) =>
    if word == "help" then ofHelpWords rest
    else match CommandName.ofWord? word with
      | some name => ofCommand reader name rest
      | none => .misuse

end Request

end Docsite
