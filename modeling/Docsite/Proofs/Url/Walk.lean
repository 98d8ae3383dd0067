/-
**Walking along a path.**

A path is walked piece by piece: a name is added, `.` changes nothing and `..` takes the last name away.
What reading a path leaves is where the walk ends, with an empty segment behind it where a slash or dots
close the path.

* `walk`: the segments after some pieces.
* `resolve_eq_walk`: reading a path whose pieces are not empty, the last one aside.
* `namedPieces_closed`: the pieces of a path that is written with slashes between them.
-/

import Docsite.Proofs.Url.Segments

namespace Docsite.Url

/-! ## Pieces -/

theorem pathPieces_ne_nil (input : List Char) : pathPieces .web input ≠ [] := by
  rw [pathPieces_eq]
  exact List.splitOnP_ne_nil _ input

/-- A slash between two texts separates their pieces. -/
theorem pathPieces_append_slash (front back : List Char) :
    pathPieces .web (front ++ '/' :: back) = pathPieces .web front ++ pathPieces .web back := by
  rw [pathPieces_eq, pathPieces_eq, pathPieces_eq]
  exact List.splitOnP_append_cons front back rfl

/-- Behind a slash, or in front of everything, a text adds its own pieces. -/
theorem pathPieces_append_closed {front : List Char} (back : List Char)
    (closed : front = [] ∨ ∃ before, front = before ++ ['/']) :
    pathPieces .web (front ++ back) = (pathPieces .web front).dropLast ++ pathPieces .web back := by
  rcases closed with rfl | ⟨before, rfl⟩
  · rfl
  · rw [List.append_assoc, List.singleton_append, pathPieces_append_slash, pathPieces_append_slash,
      pathPieces, List.dropLast_concat]

/-- **Pieces that are written with slashes between them** are the pieces of the text. -/
theorem pathPieces_intercalate {pieces : List (List Char)} (some : pieces ≠ [])
    (noSlash : ∀ piece ∈ pieces, ∀ c ∈ piece, isPathSlash .web c = false) :
    pathPieces .web (['/'].intercalate pieces) = pieces := by
  induction pieces with
  | nil => exact absurd rfl some
  | cons first rest ih =>
    have alone : pathPieces .web first = [first] := by
      rw [pathPieces_eq]
      exact List.splitOnP_eq_singleton (noSlash first List.mem_cons_self)
    cases rest with
    | nil => rwa [List.intercalate_singleton]
    | cons second rest =>
      rw [List.intercalate_cons_cons, List.append_assoc, List.singleton_append,
        pathPieces_append_slash, alone, ih (List.cons_ne_nil second rest)
          fun piece member => noSlash piece (List.mem_cons_of_mem first member)]
      rfl

/-- The pieces of a text that are not empty. -/
def namedPieces (input : List Char) : List (List Char) :=
  (pathPieces .web input).filter (!List.isEmpty ·)

theorem nil_notMem_namedPieces (input : List Char) : [] ∉ namedPieces input := by
  intro member
  have named := (List.mem_filter.mp member).2
  cases named

theorem noSlash_of_mem_namedPieces {input piece : List Char} (member : piece ∈ namedPieces input) :
    ∀ c ∈ piece, isPathSlash .web c = false :=
  noSlash_of_mem_pathPieces (List.mem_filter.mp member).1

theorem filter_named {pieces : List (List Char)} (named : [] ∉ pieces) :
    pieces.filter (!List.isEmpty ·) = pieces := by
  refine List.filter_eq_self.mpr fun piece member => ?_
  cases piece with
  | nil => exact absurd member named
  | cons c rest => rfl

/-- **Segments that are not empty are the named pieces of the path that is written with them**, with a
slash behind it or without. -/
theorem namedPieces_closed {segments : List Segment} {closing : List Char}
    (noSlash : ∀ segment ∈ segments, ∀ c ∈ segment, isPathSlash .web c = false)
    (named : [] ∉ segments) (closed : closing = [] ∨ closing = ['/'] ∧ segments ≠ []) :
    [] ∉ (pathPieces .web (['/'].intercalate segments ++ closing)).dropLast ∧
      namedPieces (['/'].intercalate segments ++ closing) = segments := by
  rw [namedPieces]
  rcases closed with rfl | ⟨rfl, some⟩
  · rw [List.append_nil]
    by_cases some : segments = []
    · rw [some]
      exact ⟨List.not_mem_nil, rfl⟩
    · rw [pathPieces_intercalate some noSlash, filter_named named]
      exact ⟨fun member => named (List.dropLast_subset segments member), rfl⟩
  · rw [pathPieces_append_slash, pathPieces_intercalate some noSlash, List.filter_append,
      filter_named named]
    refine ⟨?_, List.append_nil segments⟩
    rwa [pathPieces, List.dropLast_concat]

/-! ## Walking -/

/-- The segments after some pieces, with a slash behind each of them. -/
def walk (start : List Segment) (pieces : List (List Char)) : List Segment :=
  pieces.foldl (pushPiece .web) start

section Walking

variable {start : List Segment} {pieces : List (List Char)} {piece : List Char}

theorem walk_append (start : List Segment) (front back : List (List Char)) :
    walk start (front ++ back) = walk (walk start front) back :=
  List.foldl_append

/-- A step keeps segments from being empty. -/
theorem pushPiece_named (started : [] ∉ start) (named : piece ≠ []) :
    [] ∉ pushPiece .web start piece := by
  unfold pushPiece
  split
  · exact started
  · exact fun member => started (shorten_subset start member)
  · intro member
    rcases List.mem_append.mp member with inStart | isKept
    · exact started inStart
    · exact named (encode_eq_nil (List.mem_singleton.mp isKept).symm)

/-- **No segment is empty after pieces that are not.** -/
theorem walk_named (started : [] ∉ start) (named : [] ∉ pieces) : [] ∉ walk start pieces := by
  induction pieces generalizing start with
  | nil => exact started
  | cons piece more ih =>
    rw [List.mem_cons, not_or] at named
    exact ih (pushPiece_named started fun empty => named.1 empty.symm) named.2

/-- **Only segments that stay as they are come out of a walk.** -/
theorem walk_isKept (noSlash : ∀ piece ∈ pieces, ∀ c ∈ piece, isPathSlash .web c = false)
    (kept : ∀ segment ∈ start, IsKept segment) :
    ∀ segment ∈ walk start pieces, IsKept segment := by
  induction pieces generalizing start with
  | nil => exact kept
  | cons piece more ih =>
    exact ih (fun other member => noSlash other (List.mem_cons_of_mem piece member))
      (pushPiece_isKept (noSlash piece List.mem_cons_self) kept)

/-- Segments that stay as they are are walked one after the other. -/
theorem walk_kept {segments : List Segment} (kept : ∀ segment ∈ segments, IsKept segment) :
    walk start segments = start ++ segments := by
  induction segments generalizing start with
  | nil => exact (List.append_nil start).symm
  | cons segment more ih =>
    rw [walk, List.foldl_cons, (kept segment List.mem_cons_self).pushPiece_eq, ← walk,
      ih fun other member => kept other (List.mem_cons_of_mem segment member), List.append_assoc]
    rfl

/-! ## Reading as a walk -/

theorem resolve_concat (start : List Segment) (pieces : List (List Char)) (last : List Char) :
    resolve .web start (pieces ++ [last]) = closePiece .web (walk start pieces) last := by
  induction pieces generalizing start with
  | nil => rfl
  | cons piece more ih =>
    obtain ⟨second, others, split⟩ := List.exists_cons_of_ne_nil (List.concat_ne_nil last more)
    rw [List.cons_append, split, resolve, ← split, ih]
    · rfl
    · exact List.cons_ne_nil second others

/-- Pieces in front of others are walked along. -/
theorem resolve_append (start : List Segment) (front : List (List Char)) {back : List (List Char)}
    (some : back ≠ []) :
    resolve .web start (front ++ back) = resolve .web (walk start front) back := by
  rw [← List.dropLast_concat_getLast some, ← List.append_assoc, resolve_concat, resolve_concat, walk_append]

/-- **Reading a path is walking along its pieces** if none but the last of them is empty. An empty
segment is left behind the walk where the path is closed. -/
theorem resolve_eq_walk (some : pieces ≠ []) (named : [] ∉ pieces.dropLast) :
    resolve .web start pieces = walk start (pieces.filter (!List.isEmpty ·)) ∨
      resolve .web start pieces = walk start (pieces.filter (!List.isEmpty ·)) ++ [[]] := by
  obtain ⟨front, last, rfl⟩ := (List.eq_nil_or_concat pieces).resolve_left some
  rw [List.concat_eq_append] at named ⊢
  rw [List.dropLast_concat] at named
  rw [resolve_concat, List.filter_append, filter_named named, walk_append]
  cases last with
  | nil => exact .inr rfl
  | cons c rest => exact closePiece_eq .web (walk start front) (c :: rest)

end Walking

end Docsite.Url
