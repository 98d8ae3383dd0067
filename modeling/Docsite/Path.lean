/-
**Paths of files and directories.**

A path is the text it was written as; its components are found by splitting that text at the
slashes. Empty components and `.` do not count, except a `.` that opens a relative path.

* `join`: a path below another one; an absolute path replaces what it is joined to.
* `parent?`, `fileName?`, `stem?`, `extension?`: the parts of a path, each by its last component.
* `collapse`: the path with `.`, `..` and the leading slash resolved by their spelling alone.
-/

import Docsite.Text.Cut

namespace Docsite

/-- A slash-separated path, kept as it was written. -/
structure Path where
  text : String
  deriving DecidableEq, Repr, Inhabited

/-- One step of a path. -/
inductive Path.Component where
  /-- The leading slash of an absolute path. -/
  | root
  /-- A `.` that opens a relative path. -/
  | current
  /-- A `..`. -/
  | parent
  /-- A name. -/
  | name (text : String)
  deriving DecidableEq, Repr

namespace Path

/-! ## Pieces and components -/

/-- Whether a path starts at the root. -/
def isAbsolute (p : Path) : Bool :=
  p.text.toList.head? == some '/'

/-- The texts between the slashes. -/
def pieces (p : Path) : List String :=
  (Text.splitOn '/' p.text.toList).map String.ofList

/-- The component that a piece stands for, if it counts as one away from the start of a path. -/
def componentOf? (piece : String) : Option Component :=
  if piece == "" || piece == "." then none
  else if piece == ".." then some .parent
  else some (.name piece)

/-- The component that the first piece of a path stands for. -/
def firstComponent? (absolute : Bool) (piece : String) : Option Component :=
  if absolute then some .root
  else if piece == "." then some .current
  else componentOf? piece

/-- The components of a path, in order. -/
def components (p : Path) : List Component :=
  match p.pieces with
  | [] => []
  | first :: rest =>
    (firstComponent? p.isAbsolute first).toList ++ rest.filterMap componentOf?

/-- The names among the components. -/
def names (p : Path) : List String :=
  p.components.filterMap fun
    | .name text => some text
    | _ => none

/-! ## Parts -/

/-- The pieces, last first, without those at the end that are no component; the first piece of the
path stays if it is one. -/
def trimPieces (absolute : Bool) : List String → List String
  | [] => []
  | [first] => if (firstComponent? absolute first).isSome then [first] else []
  | piece :: more => if (componentOf? piece).isSome then piece :: more else trimPieces absolute more

/-- The path spelled by pieces that are given last first. -/
def ofPieces (absolute : Bool) (reversed : List String) : Path :=
  if absolute && reversed.length ≤ 1 then ⟨"/"⟩ else ⟨Text.joinWith "/" reversed.reverse⟩

/-- The path without its last component; neither the root nor an empty path has a parent. -/
def parent? (p : Path) : Option Path :=
  match trimPieces p.isAbsolute p.pieces.reverse with
  | [] => none
  | [_] => if p.isAbsolute then none else some ⟨""⟩
  | _ :: rest => some (ofPieces p.isAbsolute (trimPieces p.isAbsolute rest))

/-- The name that ends a path, if it ends in one. -/
def fileName? (p : Path) : Option String :=
  match p.components.getLast? with
  | some (.name text) => some text
  | _ => none

/-- A file name cut at its last dot, unless that dot opens the name. -/
def cutExtension (name : String) : String × Option String :=
  match (Text.splitOn '.' name.toList).reverse with
  | last :: before@(_ :: _) =>
    let stem := ['.'].intercalate before.reverse
    if stem.isEmpty then (name, none) else (String.ofList stem, some (String.ofList last))
  | _ => (name, none)

/-- The file name without its extension. -/
def stem? (p : Path) : Option String :=
  p.fileName?.map fun name => (cutExtension name).1

/-- What follows the last dot of the file name, unless that dot opens the name. -/
def extension? (p : Path) : Option String :=
  p.fileName?.bind fun name => (cutExtension name).2

/-- The extension, empty if there is none. -/
def extension (p : Path) : String :=
  p.extension?.getD ""

/-! ## Building paths -/

/-- A path below another one; an absolute path replaces what it is joined to. -/
def join (base below : Path) : Path :=
  if below.isAbsolute then below
  else if base.text == "" || base.text.toList.getLast? == some '/' then ⟨base.text ++ below.text⟩
  else ⟨base.text ++ "/" ++ below.text⟩

/-- The relative path through the given names. -/
def ofNames (names : List String) : Path :=
  ⟨Text.joinWith "/" names⟩

/-- The names after one more step: a name is added, and a `..` removes the name before it. -/
def follow (kept : List String) : Component → List String
  | .name text => kept ++ [text]
  | .parent => kept.dropLast
  | .root | .current => kept

/-- The names left over after every step. -/
def collapseNames (p : Path) : List String :=
  p.components.foldl follow []

/-- The path with `.`, `..` and the leading slash resolved by their spelling alone. -/
def collapse (p : Path) : Path :=
  ofNames p.collapseNames

end Path

end Docsite
