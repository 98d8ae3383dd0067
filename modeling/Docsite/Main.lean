/-
**The program.**

Access to the files of the system, and what is shown of a run. All that is decided is decided by
`Request.carryOut`; here it is only carried to the files and to the screen.
-/

import Docsite.CommandLine.Run

namespace Docsite

/-! ## Files of the system -/

/-- The system, with the time at which the program was started. -/
abbrev Session := ReaderT Nat IO

/-- The number of an error without its sign, which some calls turn. -/
def errorNumber (number : UInt32) : Nat :=
  min number.toNat (-number).toNat

/-- The refusal behind an error of the system. -/
def FileError.behind : IO.Error → FileError
  | .alreadyExists _ number words | .otherError number words | .resourceBusy number words
  | .resourceVanished number words | .unsupportedOperation number words
  | .hardwareFault number words | .unsatisfiedConstraints number words
  | .illegalOperation number words | .protocolError number words | .timeExpired number words
  | .interrupted _ number words | .noFileOrDirectory _ number words
  | .invalidArgument _ number words | .permissionDenied _ number words
  | .resourceExhausted _ number words | .inappropriateType _ number words
  | .noSuchThing _ number words => .ofSystem (errorNumber number) words
  | .unexpectedEof => .other "unexpected end of file"
  | .userError message => .other message

/-- The outcome of an access that the system may refuse. -/
def attempt {α : Type} (access : IO α) : IO (Except FileError α) := do
  match ← access.toBaseIO with
  | .ok value => return .ok value
  | .error error => return .error (.behind error)

/-- The names at a place of the system and below it. -/
partial def listingAt (path : Path) : IO Listing := do
  if ← (System.mkFilePath [path.text]).isDir then
    let found ← (System.mkFilePath [path.text]).readDir
    let names := (found.map (·.fileName)).toList
    return .directory (← names.mapM fun name => return (name, ← listingAt (path.join ⟨name⟩)))
  else return .file

/-- The text of a file of the system. -/
def readTextAt (path : Path) : IO (Except FileError String) := do
  if path.text.toList.contains '\x00' then return .error .containsNul
  match ← attempt (IO.FS.readBinFile (System.mkFilePath [path.text])) with
  | .error error => return .error error
  | .ok bytes =>
    match String.fromUTF8? bytes with
    | some text => return .ok text
    | none => return .error .notUtf8

/-- Access to the files of the system. -/
instance : Storage Session where
  listing? path := do
    if ← (System.mkFilePath [path.text]).isDir then return some (← listingAt path)
    else return none
  holds path := (System.mkFilePath [path.text]).pathExists
  readText path := readTextAt path
  writeText path text := attempt (IO.FS.writeFile (System.mkFilePath [path.text]) text)
  createDirectories path := attempt (IO.FS.createDirAll (System.mkFilePath [path.text]))
  elapsed := return toString ((← IO.monoMsNow) - (← read))

end Docsite

/-- Does what the command line asks for. -/
def main (words : List String) : IO UInt32 := do
  let request := Docsite.Request.ofWords words
  let outcome ← (request.carryOut : Docsite.Session Docsite.Outcome).run (← IO.monoMsNow)
  IO.print outcome.output
  IO.eprint outcome.diagnostics
  return UInt32.ofNat outcome.exitCode
