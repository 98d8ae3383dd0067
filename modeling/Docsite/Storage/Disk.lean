/-
**Disks.**

A directory with everything below it as a plain value, and the access to files on it from one of its
directories.

* `Disk.locate`: where a path leads, name by name.
* An instance of `Storage` whose state is a disk.
-/

import Docsite.Storage.Basic
import Docsite.Text.Blank
import Docsite.Text.Cut

namespace Docsite

/-! ## Entries -/

/-- What a file holds. -/
inductive FileContent where
  | text (text : String)
  /-- Bytes that are no text. -/
  | binary
  deriving DecidableEq, Repr

/-- A file, or a directory with its entries by name in ascending order. -/
inductive Entry where
  | file (content : FileContent)
  | directory (entries : List (String × Entry))
  deriving Repr, Inhabited

namespace Entry

/-- Entries with one more, which replaces the one of the same name. -/
def insertSorted (name : String) (entry : Entry) : List (String × Entry) → List (String × Entry)
  | [] => [(name, entry)]
  | (first, old) :: rest =>
    if name < first then (name, entry) :: (first, old) :: rest
    else if name = first then (name, entry) :: rest
    else (first, old) :: insertSorted name entry rest

/-- The entry that names lead to. -/
def get? : Entry → List String → Option Entry
  | entry, [] => some entry
  | .file _, _ :: _ => none
  | .directory entries, name :: rest => (entries.lookup name).bind (get? · rest)

/-- An entry with another one at the place that names lead to. Names that lead through no directory
change nothing. -/
def put (entry : Entry) (names : List String) (new : Entry) : Entry :=
  match names, entry with
  | [], _ => new
  | _ :: _, .file content => .file content
  | [name], .directory entries => .directory (insertSorted name new entries)
  | name :: rest, .directory entries =>
    match entries.lookup name with
    | some old => .directory (insertSorted name (put old rest new) entries)
    | none => .directory entries

/-- An entry with another one at the place that names lead to, in directories that are created if
need be. An empty directory changes nothing where there is a directory. -/
def plant (entry : Entry) (names : List String) (new : Entry) : Entry :=
  match names, entry, new with
  | [], .directory entries, .directory [] => .directory entries
  | [], _, _ => new
  | name :: rest, .directory entries, _ =>
    let old := (entries.lookup name).getD (.directory [])
    .directory (insertSorted name (plant old rest new) entries)
  | name :: rest, .file _, _ => .directory [(name, plant (.directory []) rest new)]

/-- The names at an entry and below it. -/
def listing : Entry → Listing
  | .file _ => .file
  | .directory entries => .directory (ofEntries entries)
where
  /-- The names at some entries and below them. -/
  ofEntries : List (String × Entry) → List (String × Listing)
  | [] => []
  | (name, entry) :: rest => (name, listing entry) :: ofEntries rest

/-- Every file of an entry with the names that lead to it. -/
def contents : Entry → List (List String × FileContent)
  | .file content => [([], content)]
  | .directory entries => ofEntries entries
where
  /-- Every file of some entries with the names that lead to it. -/
  ofEntries : List (String × Entry) → List (List String × FileContent)
  | [] => []
  | (name, entry) :: rest =>
    (contents entry).map (fun (names, content) => (name :: names, content)) ++ ofEntries rest

end Entry

/-! ## Disks -/

/-- A disk, and the names that lead from its top to the working directory. -/
structure Disk where
  top : Entry := .directory []
  workingDirectory : List String := []
  deriving Repr, Inhabited

namespace Disk

/-- The disk that holds nothing but a working directory with the given entries, in directories that
are created for them. -/
def ofEntries (entries : List (Path × Entry)) : Disk where
  top := .directory [("site",
    entries.foldl (fun below (path, entry) => below.plant path.names entry) (.directory []))]
  workingDirectory := ["site"]

/-- The files of the working directory of a disk. -/
def contents (disk : Disk) : List (List String × FileContent) :=
  ((disk.top.get? disk.workingDirectory).map Entry.contents).getD []

/-- The files of the working directory that another disk does not hold there with the same content. -/
def changesFrom (disk before : Disk) : List (Path × FileContent) :=
  let old := before.contents
  disk.contents.filterMap fun (names, content) =>
    if old.lookup names == some content then none else some (Path.ofNames names, content)

/-- How many bytes a name may have. -/
def nameLimit : Nat := 255

/-- How many bytes a path may have. -/
def pathLimit : Nat := 4095

/-- Where a piece of a path leads from a place. Every piece leads on from a directory only; above the
top there is the top. -/
def step (disk : Disk) (names : List String) (piece : String) : Except FileError (List String) :=
  match disk.top.get? names with
  | none => .error .notFound
  | some (.file _) => .error .notDirectory
  | some (.directory _) =>
    if piece == "" || piece == "." then .ok names
    else if piece == ".." then .ok names.dropLast
    else if piece.utf8ByteSize > nameLimit then .error .nameTooLong
    else .ok (names ++ [piece])

/-- Where a path starts: at the top if it is absolute, else in the working directory. -/
def start (disk : Disk) (path : Path) : List String :=
  if path.isAbsolute then [] else disk.workingDirectory

/-- Where a path leads; its last name need not exist. -/
def locate (disk : Disk) (path : Path) : Except FileError (List String) :=
  if path.text.toList.contains '\x00' then .error .containsNul
  else if path.text.utf8ByteSize > pathLimit then .error .nameTooLong
  else if path.text == "" then .error .notFound
  else path.pieces.foldlM (step disk) (disk.start path)

/-- The entry at a path. -/
def entry (disk : Disk) (path : Path) : Except FileError Entry := do
  match disk.top.get? (← disk.locate path) with
  | some entry => .ok entry
  | none => .error .notFound

/-- The names below a directory; none if there is no such directory. -/
def listing? (disk : Disk) (path : Path) : Option Listing :=
  match disk.entry path with
  | .ok (.directory entries) => some (Entry.listing (.directory entries))
  | _ => none

/-- Whether there is a file or directory. -/
def holds (disk : Disk) (path : Path) : Bool :=
  match disk.entry path with
  | .ok _ => true
  | .error _ => false

/-- The text of a file. -/
def readText (disk : Disk) (path : Path) : Except FileError String := do
  match ← disk.entry path with
  | .file (.text text) => .ok text
  | .file .binary => .error .notUtf8
  | .directory _ => .error .isDirectory

/-- A path without the slashes at its end, unless it consists of slashes. -/
def withoutSlash (path : Path) : Path :=
  let text := Text.trimEndOf '/' path.text
  if text == "" then path else ⟨text⟩

/-- The disk with a text as the content of a file, which is created if there is none. A path that
ends in a slash names no file. -/
def writeText (disk : Disk) (path : Path) (text : String) : Except FileError Disk := do
  let names ← disk.locate (withoutSlash path)
  match disk.top.get? names with
  | some (.directory _) => .error .isDirectory
  | _ =>
    if withoutSlash path == path then .ok { disk with top := disk.top.put names (.file (.text text)) }
    else .error .isDirectory

/-- The disk with one more directory. -/
def makeDirectory (disk : Disk) (path : Path) : Except FileError Disk := do
  let names ← disk.locate (withoutSlash path)
  match disk.top.get? names with
  | some _ => .error .alreadyExists
  | none => .ok { disk with top := disk.top.put names (.directory []) }

/-- Whether there is a directory. -/
def holdsDirectory (disk : Disk) (path : Path) : Bool :=
  (disk.listing? path).isSome

/-- The disk with a directory and all directories above it; those that were created before a refusal
stay. The fuel bounds their number. -/
def createDirectories : Nat → Path → StateM Disk (Except FileError Unit)
  | 0, _ => return .ok ()
  | fuel + 1, path => do
    if path.text == "" then return .ok ()
    match (← get).makeDirectory path with
    | .ok disk => set disk; return .ok ()
    | .error .notFound =>
      match path.parent? with
      | none => return .error (.other "failed to create whole tree")
      | some parent =>
        match ← createDirectories fuel parent with
        | .error error => return .error error
        | .ok () =>
          match (← get).makeDirectory path with
          | .ok disk => set disk; return .ok ()
          | .error error => return if (← get).holdsDirectory path then .ok () else .error error
    | .error error => return if (← get).holdsDirectory path then .ok () else .error error

/-- Access to the files of a disk. No time passes. -/
instance : Storage (StateM Disk) where
  listing? path := return (← get).listing? path
  holds path := return (← get).holds path
  readText path := return (← get).readText path
  writeText path text := do
    match (← get).writeText path text with
    | .ok disk => set disk; return .ok ()
    | .error error => return .error error
  createDirectories path := createDirectories (path.pieces.length + 1) path
  elapsed := return "N"

end Disk

end Docsite
