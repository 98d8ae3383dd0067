/-
**Links beside a page.**

A relative target is walked from the segments of the page without the last one. Where it is written with
characters that stay as they are, the route that it leads to is the path through the segments that the
walk leaves.

* `Url.join_beside`: a relative text names a path beside its base.
* `resolve_walk`: the route that a relative target leads to.
-/

import Docsite.Proofs.Route.Through
import Docsite.Proofs.Url.Padding

namespace Docsite

namespace Url

section Joining

variable {base : Url} {list : List Segment} {input : List Char}

/-- A text without a colon has no scheme. -/
theorem cutScheme?_eq_none (noColon : ':' ∉ input) : cutScheme? input = none := by
  cases cut : cutScheme? input with
  | none => rfl
  | some found =>
    obtain ⟨name, -, split⟩ := cutScheme?_eq_some.mp cut
    refine absurd ?_ noColon
    rw [split]
    exact List.mem_append_right name List.mem_cons_self

/-- **A relative text names a path beside its base**: it is read after the segments of the base but the
last one. -/
theorem join_beside (web : base.kind = .web) (isPath : base.path = .segments list)
    (plain : ∀ c ∈ input, keepsInPath c = true) (noColon : ':' ∉ input) (some : input ≠ [])
    (relative : ∀ c ∈ input.head?, isPathSlash .web c = false) :
    base.join (String.ofList input) =
      .ok { base with path := .segments (resolve .web list.dropLast (pathPieces .web input)) } := by
  have whole : input.takeWhile (!endsPath ·) = input := by
    refine List.takeWhile_eq_self_iff.mpr fun c member => ?_
    rw [endsPath_eq_false (plain c member)]
    rfl
  unfold join Url.read
  rw [String.toList_ofList, significant_plain plain]
  dsimp only
  rw [cutScheme?_eq_none noColon]
  dsimp only
  cases input with
  | nil => exact absurd rfl some
  | cons first rest =>
    have noEnd : endsPath first = false := endsPath_eq_false (plain first List.mem_cons_self)
    have noMark : ¬ (Option.some first == Option.some '#') = true := by
      rintro same
      obtain rfl : first = '#' := by simpa using same
      cases noEnd
    have noSlash : isEitherSlash first = false := by
      simpa [isPathSlash, isEitherSlash, SchemeKind.isSpecial] using relative first rfl
    have notFile : (SchemeKind.web == SchemeKind.file) = false := by decide
    rw [List.head?_cons, if_neg noMark, isPath, web]
    dsimp only
    rw [notFile, if_neg Bool.false_ne_true]
    unfold readRelative
    dsimp only
    rw [noEnd, if_neg Bool.false_ne_true, noSlash, if_neg Bool.false_ne_true, web, readPath, whole]
    rfl

end Joining

end Url

namespace Route

open Url (IsKept Segment namedPieces pathPieces walk)

section Pages

variable {segments list : List Segment}

/-- The URL of a page that is served at segments that stay as they are. -/
theorem join_page (kept : ∀ segment ∈ segments, IsKept segment) (named : [] ∉ segments)
    (walked : list = segments ∨ list = segments ++ [[]]) (some : list ≠ []) :
    root.join (String.ofList (list.flatMap ('/' :: ·))) =
      .ok { root with path := .segments list } := by
  have allKept : ∀ segment ∈ list, IsKept segment := by
    intro segment member
    rcases walked with rfl | rfl
    · exact kept segment member
    · rcases List.mem_append.mp member with inPath | isEmpty
      · exact kept segment inPath
      · exact List.mem_singleton.mp isEmpty ▸ Url.isKept_nil
  obtain ⟨first, others, rfl⟩ := List.exists_cons_of_ne_nil some
  refine Url.join_chars root_kind root_path allKept ?_
  by_cases empty : first = []
  -- Only the root has an empty segment in front, and nothing stands behind that one.
  · obtain rfl : others = [] := by
      rcases walked with rfl | split
      · exact absurd (empty ▸ List.mem_cons_self) named
      · cases segments with
        | nil => exact (List.cons.inj split).2
        | cons segment more =>
          obtain ⟨rfl, -⟩ := List.cons.inj split
          exact absurd (empty ▸ List.mem_cons_self) named
    rw [empty]
    decide
  · exact leavesSlash_of_kept (allKept first List.mem_cons_self) empty _

/-- The URL of a page at the path through such segments. -/
theorem join_through (kept : ∀ segment ∈ segments, IsKept segment) (named : [] ∉ segments) :
    ∃ list, list.dropLast = segments.dropLast ∧
      root.join (through (segments.map String.ofList)) =
        .ok { root with path := .segments list } := by
  rw [through_ofList]
  by_cases nothing : segments = []
  · have slash : '/' :: ['/'].intercalate segments = (segments ++ [[]]).flatMap ('/' :: ·) := by
      rw [nothing]
      rfl
    rw [slash]
    exact ⟨segments ++ [[]], by rw [nothing]; rfl,
      join_page kept named (.inr rfl) (List.concat_ne_nil [] segments)⟩
  · rw [← flatMap_slash nothing]
    exact ⟨segments, rfl, join_page kept named (.inl rfl) nothing⟩

/-- The URL of a page that is served as a directory. -/
theorem join_through_closed (kept : ∀ segment ∈ segments, IsKept segment) (named : [] ∉ segments) :
    root.join (Text.trimEndOf '/' (through (segments.map String.ofList)) ++ "/") =
      .ok { root with path := .segments (segments ++ [[]]) } := by
  have closed : Text.trimEndOf '/' (through (segments.map String.ofList)) ++ "/" =
      String.ofList ((segments ++ [[]]).flatMap ('/' :: ·)) := by
    rw [trimEndOf_through kept (closed_of_named named), List.flatMap_append, String.ofList_append]
    rfl
  rw [closed]
  exact join_page kept named (.inr rfl) (List.concat_ne_nil [] segments)

/-- **A relative target leads where a walk along it ends**, if none of its pieces but the last is empty.
The walk starts from the segments of the page but the last one. -/
theorem resolve_walk {page : String} {url : Url} {input : List Char}
    (joined : root.join page = .ok url) (web : url.kind = .web) (isPath : url.path = .segments list)
    (kept : ∀ segment ∈ list.dropLast, IsKept segment) (named : [] ∉ list.dropLast)
    (plain : ∀ c ∈ input, Url.keepsInPath c = true) (noColon : ':' ∉ input)
    (some : input ≠ []) (inner : [] ∉ (pathPieces .web input).dropLast)
    (relative : ∀ c ∈ input.head?, Url.isPathSlash .web c = false) :
    resolve page (String.ofList input) =
      through ((walk list.dropLast (namedPieces input)).map String.ofList) := by
  have isPlain : cutSuffixes (String.ofList input) = String.ofList input :=
    cutSuffixes_eq_self fun c member => Url.endsPath_eq_false (plain c member)
  have pieces := Url.pathPieces_ne_nil input
  unfold resolve
  rw [joined, isPlain, Except.bind, Url.join_beside web isPath plain noColon some relative]
  exact normalize_segments
    (Url.walk_isKept (fun _ => Url.noSlash_of_mem_namedPieces) kept)
    (Url.walk_named named (Url.nil_notMem_namedPieces input))
    (Url.resolve_eq_walk pieces inner) (Url.resolve_ne_nil pieces)

end Pages

end Route

end Docsite
