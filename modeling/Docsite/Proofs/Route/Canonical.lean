/-
**Normal forms are canonical.**

A path from the root whose segments are not empty has one normal form, whatever its segments hold: a
path through segments that are neither empty nor dots, of plain ASCII characters only. It is its own
normal form, and it is the one of every spelling of the path with a slash, a query or a fragment behind
it.

* `IsDots`: the spellings of `.` and `..`.
* `IsCanonical`: what such a normal form looks like.
* `normalize_canonical`: the normal form of a path through any segments.
-/

import Docsite.Proofs.Route.Suffixes
import Docsite.Proofs.Route.Through

namespace Docsite.Route

open Url (IsKept Segment behindSlash namedPieces pathPieces walk)

/-! ## Dots -/

/-- The spellings of a dot. -/
def dotSpellings : List (List Char) :=
  [['.'], ['%', '2', 'e'], ['%', '2', 'E']]

/-- A segment is one dot or two, each of them plain or percent-encoded. -/
def IsDots (segment : List Char) : Prop :=
  ∃ first ∈ dotSpellings, segment = first ∨ ∃ second ∈ dotSpellings, segment = first ++ second

/-- Reading a path counts these dots. -/
theorem IsDots.dotCount? {segment : List Char} (dots : IsDots segment) :
    Url.dotCount? segment = some 1 ∨ Url.dotCount? segment = some 2 := by
  have one : ∀ first ∈ dotSpellings, Url.dotCount? first = some 1 := by decide
  have two : ∀ first ∈ dotSpellings, ∀ second ∈ dotSpellings,
      Url.dotCount? (first ++ second) = some 2 := by decide
  obtain ⟨first, isFirst, rfl | ⟨second, isSecond, rfl⟩⟩ := dots
  · exact .inl (one segment isFirst)
  · exact .inr (two first isFirst second isSecond)

/-- A segment that stays as it is is no dots. -/
theorem not_isDots {segment : Segment} (kept : IsKept segment) : ¬ IsDots segment := fun dots =>
  dots.dotCount?.elim kept.notCurrent kept.notParent

/-! ## Canonical routes -/

/-- A route starts with a slash and ends in one only if it is the root. It holds no query, no fragment,
no blank, no control character and nothing beyond ASCII. None of its segments is empty or dots. -/
structure IsCanonical (route : String) : Prop where
  start : route.toList.head? = some '/'
  finish : route.toList.getLast? = some '/' → route = "/"
  plain : ∀ c ∈ route.toList, 0x20 < c.toNat ∧ c.toNat < 0x7F ∧ c ≠ '?' ∧ c ≠ '#'
  segments : route = "/" ∨
    ∀ segment ∈ Text.splitOn '/' route.toList.tail, segment ≠ [] ∧ ¬ IsDots segment

theorem plain_of_keepsInPath {c : Char} (keeps : Url.keepsInPath c = true) :
    0x20 < c.toNat ∧ c.toNat < 0x7F ∧ c ≠ '?' ∧ c ≠ '#' := by
  have isPlain : Url.isPlainAscii c = true := (Bool.and_eq_true_iff.mp keeps).1
  have notSpace : c.toNat ≠ 0x20 := by
    intro space
    obtain rfl : c = ' ' := Char.toNat_inj.mp space
    exact absurd keeps (by decide)
  rw [Url.isPlainAscii, Bool.and_eq_true, decide_eq_true_eq, decide_eq_true_eq] at isPlain
  refine ⟨by omega, isPlain.2, ?_, ?_⟩ <;>
    · rintro rfl
      exact absurd keeps (by decide)

/-- **A path through segments that stay as they are is canonical.** -/
theorem isCanonical_through {segments : List Segment}
    (kept : ∀ segment ∈ segments, IsKept segment) (named : [] ∉ segments) :
    IsCanonical (through (segments.map String.ofList)) := by
  rw [through_ofList]
  by_cases some : segments = []
  · subst some
    refine ⟨rfl, fun _ => rfl, fun c member => ?_, .inl rfl⟩
    rw [String.toList_ofList] at member
    obtain rfl := List.mem_singleton.mp member
    decide
  refine ⟨?_, fun last => ?_, fun c member => ?_, .inr fun segment member => ?_⟩
  · rw [String.toList_ofList]
    rfl
  · rw [String.toList_ofList, ← flatMap_slash some] at last
    have noSlash := getLast?_chars kept (fun last => named (List.mem_of_getLast? last)) '/' last
    cases noSlash
  · rw [String.toList_ofList, ← flatMap_slash some] at member
    exact plain_of_keepsInPath (Url.chars_plain kept c member)
  · have noSlash : ∀ segment ∈ segments, '/' ∉ segment := fun segment isSegment slash =>
      absurd ((kept segment isSegment).noSlash '/' slash) (by decide)
    rw [String.toList_ofList, List.tail_cons, Text.splitOn_eq,
      List.splitOn_intercalate '/' noSlash some] at member
    exact ⟨fun empty => named (empty ▸ member), not_isDots (kept segment member)⟩

/-! ## Paths through any segments -/

/-- A text that may stand between two slashes: it is not empty, and nothing in it separates segments,
opens a query or a fragment, or is a control character below the blank. -/
structure IsSegmentText (text : String) : Prop where
  named : text ≠ ""
  plain : ∀ c ∈ text.toList, 0x20 ≤ c.toNat ∧ c ∉ ['/', '\\', '?', '#']

instance {text : String} : Decidable (IsSegmentText text) :=
  decidable_of_iff
    (text ≠ "" ∧ text.toList.all fun c => decide (0x20 ≤ c.toNat ∧ c ∉ ['/', '\\', '?', '#']))
    ⟨fun ⟨named, plain⟩ =>
        ⟨named, fun c member => of_decide_eq_true (List.all_eq_true.mp plain c member)⟩,
      fun ⟨named, plain⟩ =>
        ⟨named, List.all_eq_true.mpr fun c member => decide_eq_true (plain c member)⟩⟩

/-- No slash of either kind stands in such a text. -/
theorem IsSegmentText.noSlash {text : String} (isText : IsSegmentText text) :
    ∀ c ∈ text.toList, Url.isPathSlash .web c = false := by
  intro c member
  have notSlash := (isText.plain c member).2
  simp only [List.mem_cons, List.not_mem_nil, or_false, not_or] at notSlash
  simp [Url.isPathSlash, notSlash]

section Spelled

variable {segments : List String} {closing : String}
  (texts : ∀ text ∈ segments, IsSegmentText text)
  (closed : closing = "" ∨ closing = "/" ∧ segments ≠ [])
  (unpadded : ∀ text ∈ segments.getLast?, text.toList.getLast? ≠ some ' ')

include texts

theorem nil_notMem_texts : [] ∉ segments.map String.toList := by
  intro member
  obtain ⟨text, isText, empty⟩ := List.mem_map.mp member
  exact (texts text isText).named (String.toList_eq_nil_iff.mp empty)

theorem noSlash_texts : ∀ segment ∈ segments.map String.toList, ∀ c ∈ segment,
    Url.isPathSlash .web c = false := by
  intro segment member
  obtain ⟨text, isText, rfl⟩ := List.mem_map.mp member
  exact (texts text isText).noSlash

include closed

/-- The characters of a path through such texts, behind its first slash. -/
theorem mem_intercalate_texts {c : Char}
    (member : c ∈ ['/'].intercalate (segments.map String.toList) ++ closing.toList) :
    0x20 ≤ c.toNat ∧ c ∉ ['\\', '?', '#'] := by
  have slash : 0x20 ≤ '/'.toNat ∧ '/' ∉ ['\\', '?', '#'] := by decide
  rcases List.mem_append.mp member with inPath | inClosing
  · rw [← Path.toList_joinWith_slash] at inPath
    rcases Path.mem_ofNames inPath with rfl | ⟨text, isText, inText⟩
    · exact slash
    · obtain ⟨visible, plain⟩ := (texts text isText).plain c inText
      exact ⟨visible, fun among => plain (List.mem_cons_of_mem '/' among)⟩
  · rcases closed with rfl | ⟨rfl, -⟩
    · cases inClosing
    · obtain rfl := List.mem_singleton.mp inClosing
      exact slash

theorem endsPath_texts : ∀ c ∈ ['/'].intercalate (segments.map String.toList) ++ closing.toList,
    Url.endsPath c = false := by
  intro c member
  have notEnd := (mem_intercalate_texts texts closed member).2
  simp only [List.mem_cons, List.not_mem_nil, or_false, not_or] at notEnd
  simp [Url.endsPath, notEnd]

include unpadded

/-- The last character of such a path counts. -/
theorem isControlOrSpace_last :
    ∀ c ∈ (['/'].intercalate (segments.map String.toList) ++ closing.toList).getLast?,
      Url.isControlOrSpace c = false := by
  intro c last
  rcases closed with rfl | ⟨rfl, -⟩
  · rw [String.toList_empty, List.append_nil, ← Path.toList_joinWith_slash] at last
    rcases List.eq_nil_or_concat segments with rfl | ⟨front, text, rfl⟩
    · cases last
    rw [List.concat_eq_append] at texts unpadded last
    have isText := texts text (List.mem_append_right front (List.mem_singleton_self text))
    have characters : text.toList ≠ [] := fun empty =>
      isText.named (String.toList_eq_nil_iff.mp empty)
    obtain ⟨before, spelled⟩ := Path.suffix_ofNames front text
    have inText : text.toList.getLast? = some c := by
      rw [← List.getLast?_append_of_ne_nil before characters, spelled]
      exact last
    have visible := (isText.plain c (List.mem_of_getLast? inText)).1
    have notSpace : c.toNat ≠ 0x20 := by
      intro space
      obtain rfl : c = ' ' := Char.toNat_inj.mp space
      exact unpadded text (by rw [List.getLast?_concat]; rfl) inText
    rw [Url.isControlOrSpace, decide_eq_false_iff_not]
    omega
  · rw [show "/".toList = ['/'] from rfl, List.getLast?_concat] at last
    obtain rfl := Option.some.inj last
    decide

/-- All of such a path counts. -/
theorem behindSlash_texts :
    behindSlash (['/'].intercalate (segments.map String.toList) ++ closing.toList) =
      ['/'].intercalate (segments.map String.toList) ++ closing.toList := by
  rw [Url.behindSlash_eq_filter (isControlOrSpace_last texts closed unpadded), List.filter_eq_self]
  intro c member
  have visible := (mem_intercalate_texts texts closed member).1
  have notBreak : c ≠ '\t' ∧ c ≠ '\n' ∧ c ≠ '\r' := by
    refine ⟨?_, ?_, ?_⟩ <;>
      · rintro rfl
        exact absurd visible (by decide)
  simp [notBreak]

/-- **The normal form of a path through any texts** is the path through the segments that a walk along
them leaves. A slash behind the path does not count. -/
theorem normalize_texts :
    normalize (through segments ++ closing) =
      through ((walk [] (segments.map String.toList)).map String.ofList) := by
  have spelled : through segments ++ closing = String.ofList
      ('/' :: (['/'].intercalate (segments.map String.toList) ++ closing.toList)) := by
    rw [← String.toList_inj, String.toList_append, toList_through, String.toList_ofList]
    rfl
  have closes : closing.toList = [] ∨
      closing.toList = ['/'] ∧ segments.map String.toList ≠ [] := by
    rcases closed with rfl | ⟨rfl, some⟩
    · exact .inl rfl
    · exact .inr ⟨rfl, fun nothing => some (List.map_eq_nil_iff.mp nothing)⟩
  obtain ⟨inner, pieces⟩ :=
    Url.namedPieces_closed (noSlash_texts texts) (nil_notMem_texts texts) closes
  rw [← behindSlash_texts texts closed unpadded] at inner pieces
  rw [spelled, normalize_walk (endsPath_texts texts closed) inner, pieces]

end Spelled

/-- **The normal form of a path is canonical.** The path goes from the root through texts that are not
empty, hold no slash, query, fragment or control character, and do not end in a blank; they may be dots,
hold escapes, blanks and any letters. Its normal form is the path through what is left when it is walked.
That path is canonical and stays as it is, and it is the normal form of the path with a slash behind it,
unless it is the root, and with any query or fragment. -/
theorem normalize_canonical {segments : List String}
    (texts : ∀ text ∈ segments, IsSegmentText text)
    (unpadded : ∀ text ∈ segments.getLast?, text.toList.getLast? ≠ some ' ') :
    normalize (through segments) =
        through ((walk [] (segments.map String.toList)).map String.ofList) ∧
      IsCanonical (normalize (through segments)) ∧
      normalize (normalize (through segments)) = normalize (through segments) ∧
      ∀ closing tail : String, (closing = "" ∨ closing = "/" ∧ segments ≠ []) →
        (∀ c ∈ tail.toList.head?, c = '?' ∨ c = '#') →
        normalize (through segments ++ closing ++ tail) = normalize (through segments) := by
  have normal := normalize_texts texts (.inl rfl) unpadded
  rw [String.append_empty] at normal
  have kept : ∀ segment ∈ walk [] (segments.map String.toList), IsKept segment :=
    Url.walk_isKept (noSlash_texts texts) fun _ none => absurd none List.not_mem_nil
  have named : [] ∉ walk [] (segments.map String.toList) :=
    Url.walk_named List.not_mem_nil (nil_notMem_texts texts)
  refine ⟨normal, ?_, ?_, fun closing tail closed isTail => ?_⟩
  · rw [normal]
    exact isCanonical_through kept named
  · rw [normal, normalize_through_kept kept named]
  · have noEnd : ∀ c ∈ (through segments ++ closing).toList, Url.endsPath c = false := by
      rw [String.toList_append, toList_through, List.cons_append]
      exact List.forall_mem_cons.mpr ⟨by decide, endsPath_texts texts closed⟩
    have isPath : cutSuffixes (through segments ++ closing ++ tail) =
        cutSuffixes (through segments ++ closing) := by
      rw [cutSuffixes_append noEnd, cutSuffixes_tail isTail, String.append_empty,
        ← String.toList_inj, toList_cutSuffixes]
      exact (List.takeWhile_eq_self_iff.mpr fun c member => by rw [noEnd c member]; rfl).symm
    rw [normalize_congr isPath, normalize_texts texts closed unpadded, normal]

/-- Two spellings of one path: with an escape, blanks and dots that lead nowhere, and with a query. -/
theorem normalize_canonical_escaped :
    (∀ text ∈ ["a b", "%2E.", "%c3é", "."], IsSegmentText text) ∧
      normalize (through ["a b", "%2E.", "%c3é", "."]) = "/%c3%C3%A9" ∧
      IsCanonical "/%c3%C3%A9" ∧
      normalize (through ["a b", "%2E.", "%c3é", "."] ++ "/" ++ "?x=1#top") = "/%c3%C3%A9" := by
  have texts : ∀ text ∈ ["a b", "%2E.", "%c3é", "."], IsSegmentText text := by decide +kernel
  obtain ⟨-, canonical, -, spellings⟩ := normalize_canonical texts (by decide +kernel)
  have normal : normalize (through ["a b", "%2E.", "%c3é", "."]) = "/%c3%C3%A9" := by decide +kernel
  rw [normal] at canonical
  refine ⟨texts, normal, canonical, ?_⟩
  rw [spellings "/" "?x=1#top" (.inr ⟨rfl, List.cons_ne_nil _ _⟩)
    (fun c isHead => .inl (Option.some.inj isHead).symm), normal]

end Docsite.Route
