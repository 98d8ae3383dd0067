/-
**Paths through segments.**

The normal form of a path whose segments are not empty is the path through the segments that are left
when it is walked. It does not matter whether a slash closes the path.

* `through`: the path from the root through some segments.
* `normalize_walk`: the normal form of a path, by a walk along its pieces.
* `normalize_segments`, `normalize_through_kept`: a path through segments that stay as they are stays as
  it is.
-/

import Docsite.Proofs.Path.Names
import Docsite.Proofs.Route.Normal
import Docsite.Proofs.Url.Walk

namespace Docsite.Route

open Url (IsKept Segment behindSlash namedPieces pathPieces walk)

/-- The path from the root through some segments. -/
def through (segments : List String) : String :=
  "/" ++ Text.joinWith "/" segments

theorem toList_through (segments : List String) :
    (through segments).toList = '/' :: ['/'].intercalate (segments.map String.toList) := by
  rw [through, String.toList_append, Path.toList_joinWith_slash]
  rfl

/-- The path through segments that are given by their characters. -/
theorem through_ofList (segments : List Segment) :
    through (segments.map String.ofList) = String.ofList ('/' :: ['/'].intercalate segments) := by
  have same : String.toList ∘ String.ofList = id := funext fun _ => String.toList_ofList
  rw [← String.toList_inj, toList_through, List.map_map, same, List.map_id, String.toList_ofList]

theorem map_ofList_toList (segments : List String) :
    (segments.map String.toList).map String.ofList = segments := by
  rw [List.map_map, Function.comp_def, List.map_congr_left fun _ _ => String.ofList_toList,
    List.map_id']

/-- **Texts that are written with slashes between them** are the named pieces of the whole, also if a
slash closes it. -/
theorem namedPieces_joined {texts : List String} {closing : String}
    (noSlash : ∀ text ∈ texts, ∀ c ∈ text.toList, Url.isPathSlash .web c = false)
    (named : "" ∉ texts) (closed : closing = "" ∨ closing = "/" ∧ texts ≠ []) :
    [] ∉ (pathPieces .web (Text.joinWith "/" texts ++ closing).toList).dropLast ∧
      namedPieces (Text.joinWith "/" texts ++ closing).toList = texts.map String.toList := by
  rw [String.toList_append, Path.toList_joinWith_slash]
  refine Url.namedPieces_closed (fun piece member => ?_) (fun member => ?_) ?_
  · obtain ⟨text, isText, rfl⟩ := List.mem_map.mp member
    exact noSlash text isText
  · obtain ⟨text, isText, empty⟩ := List.mem_map.mp member
    exact named (String.toList_eq_nil_iff.mp empty ▸ isText)
  · rcases closed with rfl | ⟨rfl, some⟩
    · exact .inl rfl
    · exact .inr ⟨rfl, fun nothing => some (List.map_eq_nil_iff.mp nothing)⟩

/-! ## Slashes at the end -/

section Trimming

variable {segments : List Segment}

theorem flatMap_slash (some : segments ≠ []) :
    segments.flatMap ('/' :: ·) = '/' :: ['/'].intercalate segments := by
  induction segments with
  | nil => exact absurd rfl some
  | cons first rest ih =>
    cases rest with
    | nil => rw [List.flatMap_singleton, List.intercalate_singleton]
    | cons second rest =>
      rw [List.flatMap_cons, ih (List.cons_ne_nil second rest), List.intercalate_cons_cons]
      simp

theorem closed_of_named (named : [] ∉ segments) : segments.getLast? ≠ some [] := fun last =>
  named (List.mem_of_getLast? last)

/-- Segments behind others are written behind a slash. -/
theorem joinWith_append {front back : List String} (someFront : front ≠ []) (someBack : back ≠ []) :
    Text.joinWith "/" (front ++ back) =
      Text.joinWith "/" front ++ "/" ++ Text.joinWith "/" back := by
  have someFirst : front.map String.toList ≠ [] := mt List.map_eq_nil_iff.mp someFront
  have someSecond : back.map String.toList ≠ [] := mt List.map_eq_nil_iff.mp someBack
  have split : '/' :: ['/'].intercalate ((front ++ back).map String.toList) =
      '/' :: ['/'].intercalate (front.map String.toList) ++
        '/' :: ['/'].intercalate (back.map String.toList) := by
    rw [List.map_append, ← flatMap_slash (List.append_ne_nil_of_left_ne_nil someFirst _),
      List.flatMap_append, flatMap_slash someFirst, flatMap_slash someSecond]
  rw [← String.toList_inj, String.toList_append, String.toList_append, Path.toList_joinWith_slash,
    Path.toList_joinWith_slash, Path.toList_joinWith_slash, (List.cons.inj split).2,
    List.append_assoc]
  rfl

/-- **Paths that are different are different behind the same segments.** -/
theorem through_append_inj {front back other : List String}
    (same : through (front ++ back) = through (front ++ other)) : through back = through other := by
  by_cases atRoot : front = []
  · rwa [atRoot] at same
  have longer {below : List String} (some : below ≠ []) :
      through (front ++ below) = through front ++ ("/" ++ Text.joinWith "/" below) := by
    rw [through, through, joinWith_append atRoot some, String.append_assoc, String.append_assoc]
  have slash (text rest : String) : text ≠ text ++ ("/" ++ rest) := by
    intro same
    have lengths := congrArg String.length same
    rw [String.length_append, String.length_append] at lengths
    have one : "/".length = 1 := rfl
    omega
  by_cases nothing : back = []
  · by_cases nothingElse : other = []
    · rw [nothing, nothingElse]
    · rw [nothing, List.append_nil, longer nothingElse] at same
      exact absurd same (slash _ _)
  · by_cases nothingElse : other = []
    · rw [nothingElse, List.append_nil, longer nothing] at same
      exact absurd same.symm (slash _ _)
    · rw [longer nothing, longer nothingElse] at same
      exact (String.append_right_inj _).mp same

/-- A path through segments does not end in a slash if the last of them is not empty. -/
theorem dropSlashes_chars (kept : ∀ segment ∈ segments, IsKept segment)
    (closed : segments.getLast? ≠ some []) :
    Text.dropEndWhile (· == '/') (segments.flatMap ('/' :: ·)) = segments.flatMap ('/' :: ·) :=
  Text.dropEndWhile_eq_self (getLast?_chars kept closed)

/-- **What is trimmed of a path through segments**, the last of them not empty, is the slash that closes
it. -/
theorem trimSlashes_chars (kept : ∀ segment ∈ segments, IsKept segment)
    (closed : segments.getLast? ≠ some []) {path : List Segment}
    (walked : path = segments ∨ path = segments ++ [[]]) (some : path ≠ []) :
    trimSlashes (path.flatMap ('/' :: ·)) = '/' :: ['/'].intercalate segments := by
  cases segments with
  | nil =>
    obtain rfl : path = [[]] := walked.resolve_left some
    rfl
  | cons first rest =>
    have long : 1 < ((first :: rest).flatMap ('/' :: ·)).length := by
      cases rest with
      | nil =>
        have letters : first.length ≠ 0 := fun empty =>
          closed (congrArg Option.some (List.eq_nil_of_length_eq_zero empty))
        rw [List.flatMap_singleton, List.length_cons]
        omega
      | cons second others =>
        rw [List.flatMap_cons, List.flatMap_cons, List.length_append, List.length_append,
          List.length_cons, List.length_cons]
        omega
    have several : (path.flatMap ('/' :: ·)).length ≠ 1 := by
      rcases walked with rfl | rfl
      · omega
      · rw [List.flatMap_append, List.length_append]
        omega
    obtain ⟨trimmed, -⟩ :=
      (trimSlashes_eq (path.flatMap ('/' :: ·))).resolve_left fun single => several single.2
    rw [trimmed, ← flatMap_slash (List.cons_ne_nil first rest)]
    rcases walked with rfl | rfl
    · exact dropSlashes_chars kept closed
    · rw [List.flatMap_append, List.flatMap_singleton, Text.dropEndWhile_concat,
        if_pos (beq_self_eq_true '/'), dropSlashes_chars kept closed]

/-- A path through segments behind others, each of them behind a slash. -/
theorem append_through (front : List Segment) {back : List String} (some : back ≠ []) :
    String.ofList (front.flatMap ('/' :: ·)) ++ through back =
      through (front.map String.ofList ++ back) := by
  have someBack : back.map String.toList ≠ [] := mt List.map_eq_nil_iff.mp some
  have split : front.map String.ofList ++ back =
      (front ++ back.map String.toList).map String.ofList := by
    rw [List.map_append, map_ofList_toList]
  rw [split, through_ofList, ← flatMap_slash (List.append_ne_nil_of_right_ne_nil front someBack),
    List.flatMap_append, flatMap_slash someBack, String.ofList_append, ← toList_through,
    String.ofList_toList]

end Trimming

/-! ## Walks -/

section Walks

variable {rest : List Char}

theorem mem_behindSlash {c : Char} (member : c ∈ behindSlash rest) : c ∈ rest :=
  (List.rdropWhile_prefix Url.isControlOrSpace rest).subset (List.mem_filter.mp member).1

/-- Where no piece but the last is empty, no second slash opens the path. -/
theorem head?_of_named (named : [] ∉ (pathPieces .web (behindSlash rest)).dropLast) :
    ∀ c ∈ (behindSlash rest).head?, Url.isEitherSlash c = false := by
  intro c first
  rw [Bool.eq_false_iff]
  intro slash
  obtain ⟨more, spelled⟩ := List.head?_eq_some_iff.mp first
  have separates : Url.isPathSlash .web c = true := by
    simpa [Url.isPathSlash, Url.isEitherSlash, Url.SchemeKind.isSpecial] using slash
  rw [spelled, pathPieces, if_pos separates,
    List.dropLast_cons_of_ne_nil (Url.pathPieces_ne_nil more)] at named
  exact named List.mem_cons_self

/-- **The normal form of a path is the path through the segments that reading it leaves**, the empty one
that closes the path aside. -/
theorem normalize_resolved {segments : List Segment} (noEnd : ∀ c ∈ rest, Url.endsPath c = false)
    (single : ∀ c ∈ (behindSlash rest).head?, Url.isEitherSlash c = false)
    (walked : Url.resolve .web [] (pathPieces .web (behindSlash rest)) = segments ∨
      Url.resolve .web [] (pathPieces .web (behindSlash rest)) = segments ++ [[]])
    (closed : segments.getLast? ≠ some []) :
    normalize (String.ofList ('/' :: rest)) = through (segments.map String.ofList) := by
  have isPath : cutSuffixes (String.ofList ('/' :: rest)) = String.ofList ('/' :: rest) :=
    cutSuffixes_eq_self (List.forall_mem_cons.mpr ⟨by decide, noEnd⟩)
  have joined := Url.join_single root_kind root_path single
  have whole : (behindSlash rest).takeWhile (!Url.endsPath ·) = behindSlash rest := by
    refine List.takeWhile_eq_self_iff.mpr fun c member => ?_
    rw [noEnd c (mem_behindSlash member)]
    rfl
  have allKept : ∀ segment ∈ Url.resolve .web [] (pathPieces .web (behindSlash rest)),
      IsKept segment :=
    Url.resolve_isKept (fun _ => Url.noSlash_of_mem_pathPieces) (List.forall_mem_nil _)
  have kept : ∀ segment ∈ segments, IsKept segment := by
    intro segment member
    refine allKept segment ?_
    rcases walked with same | same
    · exact same ▸ member
    · exact same ▸ List.mem_append_left [[]] member
  rw [normalize, normalChars_ok (by rw [isPath, joined]), through_ofList, Url.readPath, whole]
  exact congrArg String.ofList (trimSlashes_chars kept closed walked
    (Url.resolve_ne_nil (Url.pathPieces_ne_nil _)))

/-- **A walk along a path leaves these segments**, if none of its pieces but the last is empty. -/
theorem normalize_walk (noEnd : ∀ c ∈ rest, Url.endsPath c = false)
    (named : [] ∉ (pathPieces .web (behindSlash rest)).dropLast) :
    normalize (String.ofList ('/' :: rest)) =
      through ((walk [] (namedPieces (behindSlash rest))).map String.ofList) :=
  normalize_resolved noEnd (head?_of_named named)
    (Url.resolve_eq_walk (Url.pathPieces_ne_nil _) named) (closed_of_named (Url.walk_named List.not_mem_nil (Url.nil_notMem_namedPieces _)))

end Walks

/-! ## Segments that stay as they are -/

section Kept

variable {segments list : List Segment}

/-- **The normal form of segments that stay as they are**, with an empty one behind them or without. -/
theorem normalize_segments (kept : ∀ segment ∈ segments, IsKept segment) (named : [] ∉ segments)
    (walked : list = segments ∨ list = segments ++ [[]]) (some : list ≠ []) :
    normalize (String.ofList (list.flatMap ('/' :: ·))) = through (segments.map String.ofList) := by
  rw [through_ofList]
  cases segments with
  | nil =>
    obtain rfl : list = [[]] := walked.resolve_left some
    decide
  | cons first others =>
    have opened : first ≠ [] := fun empty => named (empty ▸ List.mem_cons_self)
    have closed : (first :: others).getLast? ≠ .some [] := fun last =>
      named (List.mem_of_getLast? last)
    rw [← flatMap_slash (List.cons_ne_nil first others), normalize]
    rcases walked with rfl | rfl
    · have same := normalChars_chars kept opened closed 0
      rw [List.replicate_zero, List.append_nil] at same
      rw [same]
    · have same := normalChars_chars kept opened closed 1
      rw [List.flatMap_append, List.flatMap_singleton]
      exact congrArg String.ofList same

/-- **A path through segments that stay as they are stays as it is.** -/
theorem normalize_through_kept (kept : ∀ segment ∈ segments, IsKept segment) (named : [] ∉ segments) :
    normalize (through (segments.map String.ofList)) = through (segments.map String.ofList) := by
  by_cases some : segments = []
  · rw [some]
    decide
  · have normal := normalize_segments kept named (.inl rfl) some
    rwa [flatMap_slash some, ← through_ofList] at normal

/-- Without the slash of the root, a path through segments is each of them behind a slash. -/
theorem trimEndOf_through (kept : ∀ segment ∈ segments, IsKept segment)
    (closed : segments.getLast? ≠ some []) :
    Text.trimEndOf '/' (through (segments.map String.ofList)) =
      String.ofList (segments.flatMap ('/' :: ·)) := by
  rw [through_ofList, Text.trimEndOf, String.toList_ofList]
  by_cases some : segments = []
  · rw [some]
    rfl
  · rw [← flatMap_slash some, dropSlashes_chars kept closed]

end Kept

end Docsite.Route
