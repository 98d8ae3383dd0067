/-
**Access to files.**

What the site checker asks of the place where files are kept.

* `Listing`: the names below a directory.
* `Storage`: reading and writing files and directories.
-/

import Docsite.Path

namespace Docsite

/-! ## Refusals -/

/-- Why access to a file was refused. -/
inductive FileError where
  | notFound
  | isDirectory
  | notDirectory
  | alreadyExists
  | nameTooLong
  | accessDenied
  | containsNul
  | notUtf8
  /-- Any other refusal, in the words of the system. -/
  | other (message : String)
  deriving DecidableEq, Repr

/-- The wording of a refusal. -/
def FileError.message : FileError → String
  | .notFound => "No such file or directory (os error 2)"
  | .isDirectory => "Is a directory (os error 21)"
  | .notDirectory => "Not a directory (os error 20)"
  | .alreadyExists => "File exists (os error 17)"
  | .nameTooLong => "File name too long (os error 36)"
  | .accessDenied => "Permission denied (os error 13)"
  | .containsNul => "file name contained an unexpected NUL byte"
  | .notUtf8 => "stream did not contain valid UTF-8"
  | .other message => message

/-- The refusal that a system numbers and words in the given way. -/
def FileError.ofSystem (number : Nat) (words : String) : FileError :=
  match number with
  | 2 => .notFound
  | 13 => .accessDenied
  | 17 => .alreadyExists
  | 20 => .notDirectory
  | 21 => .isDirectory
  | 36 => .nameTooLong
  | _ => .other s!"{words} (os error {number})"

/-! ## Listings -/

/-- The names at a place and below it. -/
inductive Listing where
  | file
  /-- The entries by name, in the order in which they are kept. -/
  | directory (entries : List (String × Listing))
  deriving Repr

namespace Listing

/-- Puts an entry before the first one whose name is not less. -/
def insertByName {α : Type} (entry : String × α) : List (String × α) → List (String × α)
  | [] => [entry]
  | first :: rest =>
    if entry.1 ≤ first.1 then entry :: first :: rest else first :: insertByName entry rest

/-- Entries in the ascending order of their names. -/
def inOrder {α : Type} (entries : List (String × α)) : List (String × α) :=
  entries.foldr insertByName []

/-- The names that lead to each file, depth first; the entries of every directory come in the order
of their names. -/
def files : Listing → List (List String)
  | .file => [[]]
  | .directory entries =>
    (inOrder (ofEntries entries)).flatMap fun (name, below) => below.map (name :: ·)
where
  /-- The names that lead to each file of some entries, by the name of the entry. -/
  ofEntries : List (String × Listing) → List (String × List (List String))
  | [] => []
  | (name, entry) :: rest => (name, files entry) :: ofEntries rest

end Listing

/-! ## Storage -/

/-- A place where files are kept, seen from the working directory. -/
class Storage (m : Type → Type) where
  /-- The names below a directory; none if there is no such directory. -/
  listing? : Path → m (Option Listing)
  /-- Whether there is a file or directory. -/
  holds : Path → m Bool
  /-- The text of a file. -/
  readText : Path → m (Except FileError String)
  /-- Makes a text the content of a file, which is created if there is none. -/
  writeText : Path → String → m (Except FileError Unit)
  /-- Creates a directory with all directories above it, unless they are there. -/
  createDirectories : Path → m (Except FileError Unit)
  /-- The milliseconds that have passed since the program was started, as they are shown. -/
  elapsed : m String

end Docsite
