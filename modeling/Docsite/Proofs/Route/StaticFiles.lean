/-
**Routes of static files.**

A static file is served under its own path, percent-encoded, if nothing in that path means something in a
URL. Decoding its route then gives the base URL followed by the path, and different files have different
routes. Other characters are lost on the way: what stands behind a `?` or a `#`, tabs and line breaks,
blanks at the end, the difference between `\` and a slash, and that between a character and its triple.

* `IsLiteral`: names without such characters.
* `LiteralFile`: a file whose path holds such names only.
* `LiteralFile.route_eq`: its route is its encoded path.
* `LiteralFile.route_ownPath`: decoding it gives the path back, so no two files share a route.
-/

import Mathlib.Data.Bool.AllAny
import Docsite.Proofs.Path.Relative
import Docsite.Proofs.Route.Through
import Docsite.Proofs.Text.Literal
import Docsite.Route.Content

namespace Docsite.Route

open Url (IsKept Segment behindSlash namedPieces pathPieces walk)

/-! ## Literal names -/

/-- A name in which no character has a meaning in a URL: nothing in it separates segments, opens a query
or a fragment or is left out, and no percent mark in it opens a triple. -/
structure IsLiteral (name : String) : Prop where
  isName : Path.IsName name
  plain : ∀ c ∈ name.toList, c ∉ ['\\', '?', '#', '\t', '\n', '\r']
  noTriple : Text.Percent.holdsTriple name.toList = false

instance {name : String} : Decidable (IsLiteral name) :=
  decidable_of_iff
    ((name ≠ "" ∧ name ≠ "." ∧ name ≠ ".." ∧ '/' ∉ name.toList) ∧
      (name.toList.all fun c => c ∉ ['\\', '?', '#', '\t', '\n', '\r']) = true ∧
      Text.Percent.holdsTriple name.toList = false)
    ⟨fun ⟨⟨named, notCurrent, notParent, noSlash⟩, plain, noTriple⟩ =>
        ⟨⟨named, notCurrent, notParent, noSlash⟩, List.all_iff_forall_prop.mp plain, noTriple⟩,
      fun ⟨⟨named, notCurrent, notParent, noSlash⟩, plain, noTriple⟩ =>
        ⟨⟨named, notCurrent, notParent, noSlash⟩, List.all_iff_forall_prop.mpr plain, noTriple⟩⟩

/-- Such a character is no backslash, ends no path and counts wherever it stands. -/
theorem literalChar_spec {c : Char} (plain : c ∉ ['\\', '?', '#', '\t', '\n', '\r']) :
    c ≠ '\\' ∧ Url.endsPath c = false ∧ (!(c == '\t' || c == '\n' || c == '\r')) = true := by
  simp only [List.mem_cons, List.not_mem_nil, or_false, not_or] at plain
  simp [plain, Url.endsPath]

/-- A text without triples that counts as dots consists of that many dots. -/
theorem eq_replicate_of_dotCount? {cs : List Char} {n : Nat} (counted : Url.dotCount? cs = some n)
    (noTriple : Text.Percent.holdsTriple cs = false) : cs = List.replicate n '.' := by
  fun_induction Url.dotCount? cs generalizing n with
  | case1 =>
    obtain rfl := Option.some.inj counted
    rfl
  | case2 rest ih =>
    obtain ⟨count, isCount, rfl⟩ := Option.map_eq_some_iff.mp counted
    have others := (Bool.or_eq_false_iff.mp noTriple).2
    rw [ih isCount others, List.replicate_succ]
  | case3 e rest isE ih =>
    have digit : (Text.Numeral.digit? e).isSome = true := by
      rcases (by simpa using isE : e = 'e' ∨ e = 'E') with rfl | rfl <;> decide
    have opened : Text.Percent.opensTriple ('%' :: '2' :: e :: rest) = true := by
      rw [Text.Percent.opensTriple, digit]
      rfl
    rw [Text.Percent.holdsTriple, opened] at noTriple
    cases noTriple
  | case4 => cases counted
  | case5 => cases counted

namespace IsLiteral

variable {name : String} (literal : IsLiteral name)

include literal

theorem noSlash : ∀ c ∈ name.toList, Url.isPathSlash .web c = false := by
  intro c member
  have notBackslash : c ≠ '\\' := (literalChar_spec (literal.plain c member)).1
  have notSlash : c ≠ '/' := fun same => literal.isName.noSlash (same ▸ member)
  simp [Url.isPathSlash, notSlash, notBackslash]

/-- A literal name is read as one more segment. -/
theorem pushPiece_eq (start : List Segment) : Url.pushPiece .web start name.toList =
    start ++ [Text.Percent.encode Url.keepsInPath name.toList] := by
  have notDots {n : Nat} (dots : String) (spelled : dots.toList = List.replicate n '.')
      (other : name ≠ dots) : Url.dotCount? name.toList ≠ some n := fun counted =>
    other (String.toList_inj.mp
      ((eq_replicate_of_dotCount? counted literal.noTriple).trans spelled.symm))
  unfold Url.pushPiece
  split
  · next one => exact absurd one (notDots "." rfl literal.isName.ne_current)
  · next two => exact absurd two (notDots ".." rfl literal.isName.ne_parent)
  · rfl

end IsLiteral

/-- Literal names are walked one after the other. -/
theorem walk_literal {names : List String} (literal : ∀ name ∈ names, IsLiteral name)
    (start : List Segment) : walk start (names.map String.toList) =
      start ++ (names.map String.toList).map (Text.Percent.encode Url.keepsInPath) := by
  induction names generalizing start with
  | nil => exact (List.append_nil start).symm
  | cons name rest ih =>
    rw [List.map_cons, walk, List.foldl_cons, (literal name List.mem_cons_self).pushPiece_eq, ← walk,
      ih (fun other member => literal other (List.mem_cons_of_mem name member)), List.append_assoc]
    rfl

/-! ## Paths through literal names -/

section Paths

variable {names : List String} (literal : ∀ name ∈ names, IsLiteral name)
  (unpadded : ∀ name ∈ names.getLast?, ∀ c ∈ name.toList.getLast?, Url.isControlOrSpace c = false)

include literal

theorem plain_joinWith : ∀ c ∈ (Text.joinWith "/" names).toList,
    c ∉ ['\\', '?', '#', '\t', '\n', '\r'] := by
  intro c member
  rcases Path.mem_ofNames member with rfl | ⟨name, isName, inName⟩
  · decide
  · exact (literal name isName).plain c inName

theorem holdsTriple_joinWith :
    Text.Percent.holdsTriple (Text.joinWith "/" names).toList = false := by
  rw [Path.toList_joinWith_slash]
  refine Text.Percent.holdsTriple_intercalate fun segment member => ?_
  obtain ⟨name, isName, rfl⟩ := List.mem_map.mp member
  exact (literal name isName).noTriple

include unpadded

/-- All of a path through literal names counts. -/
theorem behindSlash_literal :
    behindSlash (Text.joinWith "/" names).toList = (Text.joinWith "/" names).toList := by
  have last : ∀ c ∈ (Text.joinWith "/" names).toList.getLast?, Url.isControlOrSpace c = false := by
    intro c isLast
    rcases List.eq_nil_or_concat names with rfl | ⟨front, name, rfl⟩
    · cases isLast
    · rw [List.concat_eq_append] at literal unpadded isLast
      have isLiteral := literal name (List.mem_append_right front List.mem_cons_self)
      have characters : name.toList ≠ [] := mt String.toList_eq_nil_iff.mp isLiteral.isName.ne_empty
      obtain ⟨before, spelled⟩ := Path.suffix_ofNames front name
      refine unpadded name (by rw [List.getLast?_concat]; rfl) c ?_
      rw [Option.mem_def, ← List.getLast?_append_of_ne_nil before characters, spelled]
      exact isLast
  rw [Url.behindSlash_eq_filter last, List.filter_eq_self]
  exact fun c member => (literalChar_spec (plain_joinWith literal c member)).2.2

/-- **The normal form of a path through literal names is the encoded path.** -/
theorem normalize_literal : normalize (through names) =
    String.ofList (Text.Percent.encode Url.keepsInPath (through names).toList) := by
  have noEnd : ∀ c ∈ (Text.joinWith "/" names).toList, Url.endsPath c = false := by
    exact fun c member => (literalChar_spec (plain_joinWith literal c member)).2.1
  have named : "" ∉ names := fun member => (literal "" member).isName.ne_empty rfl
  obtain ⟨inner, pieces⟩ := namedPieces_joined (fun name member => (literal name member).noSlash)
    named (.inl rfl)
  rw [String.append_empty] at inner pieces
  have spelled : through names = String.ofList ('/' :: (Text.joinWith "/" names).toList) := by
    rw [← String.toList_inj, String.toList_ofList, through, String.toList_append]
    rfl
  have walked := normalize_walk noEnd (by rwa [behindSlash_literal literal unpadded])
  rw [behindSlash_literal literal unpadded, pieces, walk_literal literal, List.nil_append,
    through_ofList, ← Text.Percent.encode_intercalate (by decide), ← Path.toList_joinWith_slash]
    at walked
  rw [spelled, walked, String.toList_ofList]
  exact congrArg String.ofList (Url.encode_cons_kept (by decide)).symm

end Paths

/-! ## Files -/

/-- The base URL that leads through some segments: the root, or each of them with a slash behind it. -/
def baseThrough (segments : List String) : String :=
  if segments = [] then "/" else through segments ++ "/"

/-- A path below such a base URL leads through the segments of both. -/
theorem baseThrough_append (segments : List String) {names : List String} (some : names ≠ []) :
    baseThrough segments ++ Text.joinWith "/" names = through (segments ++ names) := by
  rw [baseThrough]
  split
  · next atRoot => rw [atRoot]; rfl
  · next below =>
    rw [through, through, joinWith_append below some, String.append_assoc, String.append_assoc,
      String.append_assoc]

/-- A static file with literal names on its path, of which the last one ends in no blank or control
character. -/
structure LiteralFile where
  names : List String
  ne_nil : names ≠ []
  literal : ∀ name ∈ names, IsLiteral name
  unpadded : ∀ name ∈ names.getLast?, ∀ c ∈ name.toList.getLast?, Url.isControlOrSpace c = false

namespace LiteralFile

/-- The path of the file inside its directory. -/
def path (file : LiteralFile) : Path :=
  .ofNames file.names

/-- The route of the file. -/
def route (file : LiteralFile) (baseUrl : String) : String :=
  ofStatic baseUrl file.path

variable (file : LiteralFile) {segments : List String}
  (isBase : ∀ segment ∈ segments, IsLiteral segment)

include isBase

/-- **The route of the file is its path below the base URL, percent-encoded.** -/
theorem route_eq : file.route (baseThrough segments) = String.ofList
    (Text.Percent.encode Url.keepsInPath (baseThrough segments ++ file.path.text).toList) := by
  have areNames : ∀ name ∈ file.names, Path.IsName name := fun name member =>
    (file.literal name member).isName
  have all : ∀ name ∈ segments ++ file.names, IsLiteral name :=
    List.forall_mem_append.mpr ⟨isBase, file.literal⟩
  have last : (segments ++ file.names).getLast? = file.names.getLast? :=
    List.getLast?_append_of_ne_nil segments file.ne_nil
  have untrimmed : Text.trimStartOf '/' (Text.joinWith "/" file.names) =
      Text.joinWith "/" file.names := by
    rw [Text.trimStartOf, Text.dropWhile_eq_self, String.ofList_toList]
    intro c first
    rw [beq_eq_false_iff_ne]
    rintro rfl
    exact Path.head?_ofSteps (fun name member => (areNames name member).isStep) first
  have normal := normalize_literal all (by rw [last]; exact file.unpadded)
  rw [← baseThrough_append segments file.ne_nil] at normal
  rw [route, ofStatic, path, Path.names_ofNames areNames, below, untrimmed]
  exact normal

/-- **Decoding the route gives the base URL and the path back.** -/
theorem decode?_route : Text.Percent.decode? (file.route (baseThrough segments)) =
    some (baseThrough segments ++ file.path.text) := by
  have all : ∀ name ∈ segments ++ file.names, IsLiteral name :=
    List.forall_mem_append.mpr ⟨isBase, file.literal⟩
  have noTriple : Text.Percent.holdsTriple
      (baseThrough segments ++ file.path.text).toList = false := by
    have spelled : baseThrough segments ++ file.path.text = through (segments ++ file.names) :=
      baseThrough_append segments file.ne_nil
    rw [spelled, through, String.toList_append]
    exact holdsTriple_joinWith all
  rw [file.route_eq isBase, Text.Percent.decode?_encode noTriple, String.ofList_toList]

end LiteralFile

/-- **Static files with literal names have routes of their own.** Below a base URL that leads through
literal segments, the decoded route is the base URL with the path of the file behind it, and files with
different paths have different routes. -/
theorem LiteralFile.route_ownPath {segments : List String}
    (isBase : ∀ segment ∈ segments, IsLiteral segment) :
    (∀ file : LiteralFile, Text.Percent.decode? (file.route (baseThrough segments)) =
        some (baseThrough segments ++ file.path.text)) ∧
      ∀ file other : LiteralFile, file.path ≠ other.path →
        file.route (baseThrough segments) ≠ other.route (baseThrough segments) := by
  refine ⟨fun file => file.decode?_route isBase, fun file other distinct same => distinct ?_⟩
  have decoded := file.decode?_route isBase
  rw [same, other.decode?_route isBase, Option.some_inj, String.append_right_inj] at decoded
  exact congrArg Path.mk decoded.symm

/-- A file with blanks, a letter outside ASCII and a percent mark in its path. -/
def LiteralFile.picture : LiteralFile where
  names := [".été 2", "100% red.png"]
  ne_nil := by decide
  literal := by decide
  unpadded := by
    rintro name ⟨⟩ c ⟨⟩
    rfl

/-- The same file without the blank in front of its extension. -/
def LiteralFile.drawing : LiteralFile where
  names := [".été 2", "100%red.png"]
  ne_nil := by decide
  literal := by decide
  unpadded := by
    rintro name ⟨⟩ c ⟨⟩
    rfl

/-- Both files below a base URL with a blank in it. -/
theorem LiteralFile.route_ownPath_picture :
    (∀ segment ∈ ["v 2", "s"], IsLiteral segment) ∧
      picture.route "/v 2/s/" = "/v%202/s/.%C3%A9t%C3%A9%202/100%%20red.png" ∧
      Text.Percent.decode? (picture.route "/v 2/s/") = some "/v 2/s/.été 2/100% red.png" ∧
      picture.route "/v 2/s/" ≠ drawing.route "/v 2/s/" := by
  have isBase : ∀ segment ∈ ["v 2", "s"], IsLiteral segment := by decide
  have atBase : baseThrough ["v 2", "s"] = "/v 2/s/" := by decide
  obtain ⟨decoded, apart⟩ := route_ownPath isBase
  rw [atBase] at decoded apart
  exact ⟨isBase, by decide +kernel, decoded picture, apart picture drawing (by decide)⟩

/-- **Files whose names have a meaning in a URL share a route.** Below the root, what stands behind a `?`
is lost, a backslash is read as a slash, and a character has the route of its triple; decoding such a route
gives the path of another file, or of none. -/
theorem ofStatic_shared :
    ofStatic "/" ⟨"a?b.txt"⟩ = "/a" ∧ ofStatic "/" ⟨"a?c.txt"⟩ = "/a" ∧
      Text.Percent.decode? (ofStatic "/" ⟨"a?b.txt"⟩) = some "/a" ∧
      ofStatic "/" ⟨"a\\b.txt"⟩ = ofStatic "/" ⟨"a/b.txt"⟩ ∧
      ofStatic "/" ⟨"é.txt"⟩ = ofStatic "/" ⟨"%C3%A9.txt"⟩ := by
  decide +kernel

end Docsite.Route
