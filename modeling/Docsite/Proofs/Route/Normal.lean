/-
**Routes in normal form.**

The normal form of a path from the root is the root itself or a row of segments that stay as they are,
each behind a slash. Such a path is its own normal form as long as it starts with a single slash: behind
two slashes the first segment would be read as a host.

* `IsNormal`: what normal forms look like.
* `normalChars_slash`: the normal form of a path from the root looks like this, if it is a URL at all.
* `normalize_again`: a normal form with a single slash in front stays as it is.
-/

import Docsite.Proofs.Url.Rooted
import Docsite.Route.Basic

namespace Docsite.Route

open Url (IsKept IsRooted LeavesSlash Segment)

/-! ## Slashes at the end -/

/-- The root, or segments that stay as they are, each behind a slash, the last of them not empty. -/
inductive IsNormal : List Char → Prop
  | root : IsNormal ['/']
  | segments {segments : List Segment} : (∀ segment ∈ segments, IsKept segment) →
      segments.getLast? ≠ some [] → IsNormal (segments.flatMap ('/' :: ·))

/-- A path of segments ends in a slash only if its last segment is empty. -/
theorem getLast?_chars {segments : List Segment} (kept : ∀ segment ∈ segments, IsKept segment)
    (closed : segments.getLast? ≠ some []) :
    ∀ c ∈ (segments.flatMap ('/' :: ·)).getLast?, (c == '/') = false := by
  rcases List.eq_nil_or_concat segments with rfl | ⟨front, last, rfl⟩
  · exact fun c none => by cases none
  · rw [List.concat_eq_append] at kept closed ⊢
    rw [List.getLast?_concat] at closed
    rcases List.eq_nil_or_concat last with rfl | ⟨before, d, rfl⟩
    · exact absurd rfl closed
    · have isLast : IsKept (before ++ [d]) := by
        rw [← List.concat_eq_append]
        exact kept _ (List.mem_append_right front List.mem_cons_self)
      have noSlash := isLast.noSlash d (List.mem_append_right before List.mem_cons_self)
      intro c found
      rw [List.flatMap_append, List.flatMap_singleton, List.concat_eq_append, ← List.cons_append,
        ← List.append_assoc, List.getLast?_concat] at found
      obtain rfl := Option.some.inj found
      rw [beq_eq_false_iff_ne]
      rintro rfl
      cases noSlash

/-- Without the slashes at its end, a path of segments is one of segments of which the last is not
empty. -/
theorem isNormal_dropSlashes {segments : List Segment}
    (kept : ∀ segment ∈ segments, IsKept segment) :
    IsNormal (Text.dropEndWhile (· == '/') (segments.flatMap ('/' :: ·))) := by
  induction segments using List.reverseRecOn with
  | nil => exact .segments kept (by decide)
  | append_singleton front last ih =>
    by_cases empty : last = []
    · rw [empty, List.flatMap_append, List.flatMap_singleton, Text.dropEndWhile_concat,
        if_pos (beq_self_eq_true '/')]
      exact ih fun segment member => kept segment (List.mem_append_left [last] member)
    · have closed : (front ++ [last]).getLast? ≠ some [] := by
        rw [List.getLast?_concat]
        exact fun same => empty (Option.some.inj same)
      rw [Text.dropEndWhile_eq_self (getLast?_chars kept closed)]
      exact .segments kept closed

theorem trimSlashes_eq (path : List Char) :
    trimSlashes path = path ∧ path.length = 1 ∨
      trimSlashes path = Text.dropEndWhile (· == '/') path ∧ path.length ≠ 1 := by
  match path with
  | [] => exact .inr ⟨rfl, by decide⟩
  | [c] => exact .inl ⟨rfl, rfl⟩
  | c :: d :: more => exact .inr ⟨rfl, by simp⟩

theorem isNormal_trimSlashes {segments : List Segment}
    (kept : ∀ segment ∈ segments, IsKept segment) :
    IsNormal (trimSlashes (segments.flatMap ('/' :: ·))) := by
  rcases trimSlashes_eq (segments.flatMap ('/' :: ·)) with ⟨same, single⟩ | ⟨same, -⟩
  · match segments with
    | [] => cases single
    | [] :: others =>
      rw [List.flatMap_cons, List.length_append, List.length_singleton] at single
      have nothing : others.flatMap ('/' :: ·) = [] := List.eq_nil_of_length_eq_zero (by omega)
      rw [same, List.flatMap_cons, nothing]
      exact .root
    | (c :: first) :: others => simp at single
  · rw [same]
    exact isNormal_dropSlashes kept

/-! ## Normal forms -/

theorem root_kind : root.kind = .web := by decide

theorem root_path : root.path = .segments [[]] := rfl

/-- The normal form of a text, by what it names below the root. -/
theorem normalChars_ok {path : String} {url : Url}
    (joined : root.join (cutSuffixes path) = .ok url) :
    normalChars path = trimSlashes url.path.chars := by
  rw [normalChars, joined]

theorem normalChars_error {path : String} {cause : UrlError}
    (joined : root.join (cutSuffixes path) = .error cause) :
    normalChars path = trimSlashes (cutSuffixes path).toList := by
  rw [normalChars, joined]

theorem cutSuffixes_slash (rest : List Char) :
    cutSuffixes (String.ofList ('/' :: rest)) =
      String.ofList ('/' :: rest.takeWhile (!Url.endsPath ·)) := by
  rw [cutSuffixes, String.toList_ofList, List.takeWhile_cons_of_pos (by decide)]

theorem cutSuffixes_eq_self {cs : List Char} (noSuffix : ∀ c ∈ cs, Url.endsPath c = false) :
    cutSuffixes (String.ofList cs) = String.ofList cs := by
  rw [cutSuffixes, String.toList_ofList, List.takeWhile_eq_self_iff.mpr]
  intro c member
  rw [noSuffix c member]
  rfl

/-- **The normal form of a path from the root looks like one, unless the path is no URL.** -/
theorem normalChars_slash (rest : List Char) :
    IsNormal (normalChars (String.ofList ('/' :: rest))) ∨
      ∃ cause, root.join (cutSuffixes (String.ofList ('/' :: rest))) = .error cause := by
  cases joined : root.join (cutSuffixes (String.ofList ('/' :: rest))) with
  | error cause => exact .inr ⟨cause, rfl⟩
  | ok url =>
    left
    rw [normalChars_ok joined]
    rw [cutSuffixes_slash] at joined
    obtain ⟨behind, path⟩ := Url.path_of_join root_kind root_path joined
    obtain ⟨segments, same, -, kept⟩ := Url.readPath_isKept behind
    rw [path, same]
    exact isNormal_trimSlashes kept

/-- A kept segment that is not empty may follow a slash. -/
theorem leavesSlash_of_kept {segment : Segment} (kept : IsKept segment) (named : segment ≠ [])
    (behind : List Char) : LeavesSlash (segment ++ behind) := by
  match segment with
  | [] => exact absurd rfl named
  | c :: more =>
    have plain := kept.plain c List.mem_cons_self
    have noSlash := kept.noSlash c List.mem_cons_self
    intro d first
    obtain rfl : c = d := Option.some.inj first
    simp only [List.mem_cons, List.not_mem_nil, or_false, not_or]
    refine ⟨?_, ?_, ?_, ?_, ?_⟩ <;> rintro rfl
    · cases noSlash
    · cases noSlash
    · cases plain
    · cases plain
    · cases plain

/-- **Segments that stay as they are are in normal form, and slashes behind them do not count.** -/
theorem normalChars_chars {first : Segment} {others : List Segment}
    (kept : ∀ segment ∈ first :: others, IsKept segment) (named : first ≠ [])
    (closed : (first :: others).getLast? ≠ some []) (slashes : Nat) :
    normalChars (String.ofList
      ((first :: others).flatMap ('/' :: ·) ++ List.replicate slashes '/')) =
        (first :: others).flatMap ('/' :: ·) := by
  -- Each slash at the end opens one more segment, which is empty.
  have emptySegments : (List.replicate slashes ([] : Segment)).flatMap ('/' :: ·) =
      List.replicate slashes '/' := by
    simp [List.flatMap_replicate]
  have spelled : (first :: others).flatMap ('/' :: ·) ++ List.replicate slashes '/' =
      (first :: (others ++ List.replicate slashes [])).flatMap ('/' :: ·) := by
    rw [← List.cons_append, List.flatMap_append, emptySegments]
  have allKept : ∀ segment ∈ first :: (others ++ List.replicate slashes []), IsKept segment := by
    intro segment member
    rw [← List.cons_append] at member
    rcases List.mem_append.mp member with inPath | isEmpty
    · exact kept segment inPath
    · obtain rfl := List.eq_of_mem_replicate isEmpty
      exact Url.isKept_nil
  have noSuffix := fun c member => Url.endsPath_eq_false (Url.chars_plain allKept c member)
  have joined := Url.join_chars root_kind root_path allKept
    (leavesSlash_of_kept (kept first List.mem_cons_self) named _)
  have several : ((first :: (others ++ List.replicate slashes [])).flatMap ('/' :: ·)).length ≠ 1 := by
    have letters := List.length_pos_iff.mpr named
    rw [List.flatMap_cons, List.length_append, List.length_cons]
    omega
  rw [spelled, normalChars_ok (by rw [cutSuffixes_eq_self noSuffix, joined])]
  show trimSlashes ((first :: (others ++ List.replicate slashes [])).flatMap ('/' :: ·)) = _
  rcases trimSlashes_eq ((first :: (others ++ List.replicate slashes [])).flatMap ('/' :: ·)) with
    ⟨-, single⟩ | ⟨same, -⟩
  · exact absurd single several
  · rw [same, ← spelled,
      Text.dropEndWhile_replicate (p := (· == '/')) (beq_self_eq_true '/'),
      Text.dropEndWhile_eq_self (getLast?_chars kept closed)]

/-- A path of segments starts with two slashes if its first segment is empty. -/
theorem IsNormal.exists_segments {cs : List Char} (normal : IsNormal cs)
    (rooted : IsRooted (String.ofList cs)) :
    cs = ['/'] ∨ ∃ first others, (∀ segment ∈ first :: others, IsKept segment) ∧ first ≠ [] ∧
      (first :: others).getLast? ≠ some [] ∧ cs = (first :: others).flatMap ('/' :: ·) := by
  cases normal with
  | root => exact .inl rfl
  | @segments segments kept closed =>
    obtain ⟨rest, spelled, single⟩ := rooted
    rw [String.toList_ofList] at spelled
    match segments with
    | [] => cases spelled
    | first :: others =>
      refine .inr ⟨first, others, kept, ?_, closed, rfl⟩
      rintro rfl
      match others with
      | [] => exact closed rfl
      | second :: more =>
        obtain rfl := (List.cons.inj spelled).2
        exact single '/' rfl List.mem_cons_self

/-- **A normal form stays as it is if it starts with a single slash.** -/
theorem IsNormal.again {cs : List Char} (normal : IsNormal cs)
    (rooted : IsRooted (String.ofList cs)) : normalChars (String.ofList cs) = cs := by
  rcases normal.exists_segments rooted with rfl | ⟨first, others, kept, named, closed, rfl⟩
  · decide
  · have same := normalChars_chars kept named closed 0
    rwa [List.replicate_zero, List.append_nil] at same

/-! ## Paths from the root -/

/-- Trimming keeps the front of a path. -/
theorem head?_trimSlashes {path : List Char} {c : Char} (first : c ∈ (trimSlashes path).head?) :
    c ∈ path.head? := by
  rcases trimSlashes_eq path with ⟨same, -⟩ | ⟨same, -⟩
  · rwa [same] at first
  · rw [same] at first
    exact Text.head?_dropEndWhile first

/-- A path that starts with a single slash when its last ones are gone did so before. -/
theorem leavesSlash_of_trimSlashes {rest kept : List Char} (single : LeavesSlash kept)
    (trimmed : trimSlashes ('/' :: rest) = '/' :: kept) : LeavesSlash rest := by
  rcases trimSlashes_eq ('/' :: rest) with ⟨same, -⟩ | ⟨same, -⟩
  · obtain rfl := (List.cons.inj (same.symm.trans trimmed)).2
    exact single
  · rw [same] at trimmed
    match kept with
    | [] =>
      have last : '/' ∈ (Text.dropEndWhile (· == '/') ('/' :: rest)).getLast? := by
        rw [trimmed]
        rfl
      exact absurd (Text.getLast?_dropEndWhile last) (by decide)
    | c :: more =>
      obtain ⟨dropped, split, -⟩ := Text.exists_dropEndWhile_append (· == '/') ('/' :: rest)
      rw [trimmed] at split
      obtain rfl := (List.cons.inj split).2
      exact single

section FromRoot

variable {path : String} (slash : path.toList.head? = some '/')

include slash

theorem exists_slash : ∃ rest, path = String.ofList ('/' :: rest) := by
  match spelled : path.toList with
  | [] =>
    rw [spelled] at slash
    cases slash
  | c :: rest =>
    rw [spelled] at slash
    obtain rfl := Option.some.inj slash
    exact ⟨rest, by rw [← spelled, String.ofList_toList]⟩

/-- A normal form that starts with a single slash looks like one. -/
theorem isNormal_normalChars (rooted : IsRooted (normalize path)) : IsNormal (normalChars path) := by
  obtain ⟨rest, rfl⟩ := exists_slash slash
  rcases normalChars_slash rest with normal | ⟨cause, joined⟩
  · exact normal
  -- What is no URL starts with two slashes, and so does what is left of it.
  · exfalso
    obtain ⟨kept, spelled, single⟩ := rooted
    rw [normalize, String.toList_ofList, normalChars_error joined, cutSuffixes_slash,
      String.toList_ofList] at spelled
    have joins := Url.join_rooted root_kind root_path (leavesSlash_of_trimSlashes single spelled)
    rw [cutSuffixes_slash, joins] at joined
    cases joined

/-- **A normal form stays as it is if it starts with a single slash.** -/
theorem normalize_again (rooted : IsRooted (normalize path)) :
    normalize (normalize path) = normalize path :=
  congrArg String.ofList ((isNormal_normalChars slash rooted).again rooted)

/-- Slashes behind a normal form do not count, unless it is the root. -/
theorem normalize_slashes (rooted : IsRooted (normalize path)) (notRoot : normalize path ≠ "/")
    (slashes : Nat) :
    normalize (String.ofList ((normalize path).toList ++ List.replicate slashes '/')) =
      normalize path := by
  have spelled : (normalize path).toList = normalChars path := String.toList_ofList
  rcases (isNormal_normalChars slash rooted).exists_segments rooted with
    isRoot | ⟨first, others, kept, named, closed, same⟩
  · exact absurd (congrArg String.ofList isRoot) notRoot
  · rw [spelled, same, normalize, normalChars_chars kept named closed slashes, ← same]
    rfl

/-- A normal form is a path from the root, without query and fragment, that was trimmed. -/
theorem normalChars_eq_trimSlashes : ∃ rest, normalChars path = trimSlashes ('/' :: rest) ∧
    ∀ c ∈ '/' :: rest, Url.endsPath c = false := by
  obtain ⟨rest, rfl⟩ := exists_slash slash
  cases joined : root.join (cutSuffixes (String.ofList ('/' :: rest))) with
  | ok url =>
    rw [normalChars_ok joined]
    rw [cutSuffixes_slash] at joined
    obtain ⟨behind, isRead⟩ := Url.path_of_join root_kind root_path joined
    obtain ⟨segments, same, some, kept⟩ := Url.readPath_isKept behind
    obtain ⟨first, others, rfl⟩ := List.exists_cons_of_ne_nil some
    rw [isRead, same]
    exact ⟨_, rfl, fun c member => Url.endsPath_eq_false (Url.chars_plain kept c member)⟩
  | error cause =>
    rw [normalChars_error joined, cutSuffixes_slash, String.toList_ofList]
    refine ⟨_, rfl, List.forall_mem_cons.mpr ⟨by decide, fun c member => ?_⟩⟩
    have stays := List.all_eq_true.mp List.all_takeWhile c member
    exact (Bool.not_eq_true' _).mp stays

/-- **A normal form is empty or starts with a slash.** -/
theorem head?_normalize : normalize path = "" ∨ (normalize path).toList.head? = some '/' := by
  obtain ⟨rest, trimmed, -⟩ := normalChars_eq_trimSlashes slash
  rw [normalize, trimmed, String.toList_ofList]
  match kept : trimSlashes ('/' :: rest) with
  | [] => exact .inl rfl
  | c :: more =>
    have first : c ∈ (trimSlashes ('/' :: rest)).head? := by
      rw [kept]
      rfl
    exact .inr (head?_trimSlashes first).symm

/-- **A normal form ends in a slash only if it is the root.** -/
theorem getLast?_normalize (last : (normalize path).toList.getLast? = some '/') :
    normalize path = "/" := by
  obtain ⟨rest, trimmed, -⟩ := normalChars_eq_trimSlashes slash
  rw [normalize, trimmed, String.toList_ofList] at last
  rw [normalize, trimmed]
  rcases trimSlashes_eq ('/' :: rest) with ⟨same, single⟩ | ⟨same, -⟩
  · obtain rfl := List.eq_nil_of_length_eq_zero (Nat.succ.inj single)
    rfl
  · rw [same] at last
    exact absurd (Text.getLast?_dropEndWhile last) (by decide)

/-- A normal form has neither query nor fragment. -/
theorem cutSuffixes_normalize : cutSuffixes (normalize path) = normalize path := by
  obtain ⟨rest, trimmed, noSuffix⟩ := normalChars_eq_trimSlashes slash
  rw [normalize, trimmed]
  refine cutSuffixes_eq_self fun c member => noSuffix c ?_
  rcases trimSlashes_eq ('/' :: rest) with ⟨same, -⟩ | ⟨same, -⟩
  · rwa [same] at member
  · rw [same] at member
    exact (List.rdropWhile_prefix _ _).subset member

end FromRoot

end Docsite.Route
