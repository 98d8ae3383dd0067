/-
**Failures of commands.**

* `Failure.report`: what is shown of a failure, with the causes behind it.
-/

import Docsite.Check.Report
import Docsite.Config.Error
import Docsite.Content.File

namespace Docsite

/-- Why a command could not be carried out. -/
inductive Failure where
  | invalidConfig (path : Path) (cause : ConfigError)
  | contentUnusable (siteDir : Path) (cause : ContentError)
  | checkFailed (cause : CheckError)
  | docsDirectoryRefused (cause : FileError)
  | directoryRefused (path : Path) (cause : FileError)
  /-- A file, by the name that messages use, could not be written. -/
  | fileRefused (name : String) (cause : FileError)
  deriving DecidableEq, Repr

namespace Failure

/-- The wording of a failure. -/
def message : Failure → String
  | .invalidConfig path _ => s!"Invalid site config {path.text}"
  | .contentUnusable siteDir _ => s!"Failed to read content in {siteDir.text}"
  | .checkFailed cause => cause.message
  | .docsDirectoryRefused _ => "Failed to create docs directory"
  | .directoryRefused path _ => s!"Failed to create directory {path.text}"
  | .fileRefused name _ => s!"Failed to write {name}"

/-- The causes behind an error of the configuration, the nearest first. -/
def configCauses : ConfigError → List String
  | .unreadable path cause => [(ConfigError.unreadable path cause).message, cause.message]
  | error => [error.message]

/-- The causes behind a failure, the nearest first. -/
def causes : Failure → List String
  | .invalidConfig _ cause => configCauses cause
  | .contentUnusable _ cause => [cause.message, cause.cause]
  | .checkFailed _ => []
  | .docsDirectoryRefused cause | .directoryRefused _ cause | .fileRefused _ cause =>
    [cause.message]

/-- A text with `first` in front of its first line and `others` in front of the other ones. -/
def indent (first others : String) (s : String) : String :=
  first ++ Text.joinWith ("\n" ++ others) ((Text.splitOn '\n' s.toList).map String.ofList)

/-- A cause with its number. -/
def numbered (cause : String) (number : Nat) : String :=
  let digits := toString number
  indent (String.ofList (List.replicate (5 - digits.length) ' ') ++ digits ++ ": ") "       " cause

/-- What is shown of a failure: several causes are numbered. -/
def report (failure : Failure) : String :=
  match failure.causes with
  | [] => failure.message
  | [cause] => failure.message ++ "\n\nCaused by:\n" ++ indent "    " "    " cause
  | causes =>
    failure.message ++ "\n\nCaused by:\n" ++
      Text.joinWith "\n" (causes.zipIdx.map fun (cause, i) => numbered cause i)

end Failure

end Docsite
