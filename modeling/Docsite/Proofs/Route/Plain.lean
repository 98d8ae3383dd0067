/-
**Plain segments.**

A segment of ASCII letters, digits, `-`, `_` and `~` is written in a path as it is, and nothing else can
be read into it. Paths through such segments are followed step by step, with `.` and `..` as the only
steps that are no segments.

* `IsPlain`: the plain segments.
* `Step`: a step of a relative path, and what it does to the segments before it.
* `walk_steps`: walking along the texts of steps is taking these steps.
-/

import Docsite.Proofs.Route.NumberPrefix
import Docsite.Proofs.Route.Through

namespace Docsite.Route

open Url (IsKept Segment walk)

/-! ## Segments -/

/-- The characters of plain segments. -/
def isPlainChar (c : Char) : Bool :=
  c.isAlphanum || c == '-' || c == '_' || c == '~'

/-- A plain segment is not empty and holds plain characters only. -/
structure IsPlain (segment : String) : Prop where
  named : segment ≠ ""
  plain : ∀ c ∈ segment.toList, isPlainChar c = true

instance {segment : String} : Decidable (IsPlain segment) :=
  decidable_of_iff (segment ≠ "" ∧ segment.toList.all isPlainChar = true)
    ⟨fun ⟨named, plain⟩ => ⟨named, List.all_eq_true.mp plain⟩,
      fun ⟨named, plain⟩ => ⟨named, List.all_eq_true.mpr plain⟩⟩

/-- What a plain character is not: it is kept in paths and has no meaning in them. -/
theorem isPlainChar_spec {c : Char} (plain : isPlainChar c = true) :
    Url.keepsInPath c = true ∧ Url.isPathSlash .web c = false ∧ c ∉ ['.', ':', '|', '%', '\\'] := by
  have ascii : c.toNat < 0x7F := by
    unfold isPlainChar Char.isAlphanum Char.isAlpha Char.isUpper Char.isLower Char.isDigit at plain
    simp only [Bool.or_eq_true, Bool.and_eq_true, decide_eq_true_eq, beq_iff_eq] at plain
    rcases plain with (((((⟨-, most⟩ | ⟨-, most⟩) | ⟨-, most⟩) | rfl) | rfl) | rfl)
    · exact Nat.lt_of_le_of_lt (UInt32.le_iff_toNat_le.mp most) (by decide)
    · exact Nat.lt_of_le_of_lt (UInt32.le_iff_toNat_le.mp most) (by decide)
    · exact Nat.lt_of_le_of_lt (UInt32.le_iff_toNat_le.mp most) (by decide)
    · decide
    · decide
    · decide
  have all : ∀ n < 0x7F, isPlainChar (Char.ofNat n) = true →
      Url.keepsInPath (Char.ofNat n) = true ∧ Url.isPathSlash .web (Char.ofNat n) = false ∧
        Char.ofNat n ∉ ['.', ':', '|', '%', '\\'] := by
    decide +kernel
  have here := all c.toNat ascii
  rw [Char.ofNat_toNat] at here
  exact here plain

section Segments

variable {segment : String} {segments : List String}

/-- **A plain segment stays as it is.** -/
theorem IsPlain.isKept (isPlain : IsPlain segment) : IsKept segment.toList := by
  have noDots : Url.dotCount? segment.toList = none := by
    match spelled : segment.toList with
    | [] => exact absurd (String.toList_eq_nil_iff.mp spelled) isPlain.named
    | c :: rest =>
      obtain ⟨-, -, other⟩ := isPlainChar_spec (isPlain.plain c (spelled ▸ List.mem_cons_self))
      simp only [List.mem_cons, List.not_mem_nil, or_false, not_or] at other
      unfold Url.dotCount?
      split
      · next same => cases same
      · next same => exact absurd (List.cons.inj same).1 other.1
      · next same => exact absurd (List.cons.inj same).1 other.2.2.2.1
      · rfl
  refine ⟨fun c member => ?_, fun c member => ?_, ?_, ?_⟩
  · exact (isPlainChar_spec (isPlain.plain c member)).1
  · exact (isPlainChar_spec (isPlain.plain c member)).2.1
  · rw [noDots]
    exact nofun
  · rw [noDots]
    exact nofun

theorem IsPlain.notMem (isPlain : IsPlain segment) {c : Char} (other : isPlainChar c = false) :
    c ∉ segment.toList := by
  intro member
  rw [isPlain.plain c member] at other
  cases other

/-- A plain segment is a name. -/
theorem IsPlain.isName (isPlain : IsPlain segment) : Path.IsName segment where
  ne_empty := isPlain.named
  ne_current same := isPlain.notMem (c := '.') (by decide) (same ▸ List.mem_cons_self)
  ne_parent same := isPlain.notMem (c := '.') (by decide) (same ▸ List.mem_cons_self)
  noSlash := isPlain.notMem (by decide)

/-- **A plain segment without its ordering number is plain.** -/
theorem IsPlain.strip (isPlain : IsPlain segment) : IsPlain (NumberPrefix.strip segment) where
  named := mt NumberPrefix.eq_empty_of_strip isPlain.named
  plain c member := isPlain.plain c ((NumberPrefix.suffix_strip segment).subset member)

theorem isKept_plain (plain : ∀ segment ∈ segments, IsPlain segment) :
    ∀ segment ∈ segments.map String.toList, IsKept segment := by
  intro segment member
  obtain ⟨text, isText, rfl⟩ := List.mem_map.mp member
  exact (plain text isText).isKept

theorem nil_notMem_plain (plain : ∀ segment ∈ segments, IsPlain segment) :
    [] ∉ segments.map String.toList := by
  intro member
  obtain ⟨text, isText, empty⟩ := List.mem_map.mp member
  exact (plain text isText).named (String.toList_eq_nil_iff.mp empty)

/-- No drive letter is plain, so the last one of some plain segments can be taken away. -/
theorem shorten_plain (plain : ∀ segment ∈ segments, IsPlain segment) :
    Url.shorten (segments.map String.toList) = segments.dropLast.map String.toList := by
  have noDrive : ((segments.map String.toList).getLast?.map Url.isDriveLetter).getD false = false := by
    rw [List.getLast?_map]
    cases last : segments.getLast? with
    | none => rfl
    | some segment =>
      have isPlain := plain segment (List.mem_of_getLast? last)
      show Url.isDriveLetter segment.toList = false
      unfold Url.isDriveLetter
      split
      · next letter mark spelled =>
        obtain ⟨-, -, other⟩ := isPlainChar_spec
          (isPlain.plain mark (spelled ▸ List.mem_cons_of_mem letter List.mem_cons_self))
        simp only [List.mem_cons, List.not_mem_nil, or_false, not_or] at other
        simp [other]
      · rfl
  rw [Url.shorten, noDrive, if_neg Bool.false_ne_true, List.map_dropLast]

/-- Plain segments are the pieces of the path through them. -/
theorem namedPieces_plain (plain : ∀ segment ∈ segments, IsPlain segment) {closing : String}
    (closed : closing = "" ∨ closing = "/" ∧ segments ≠ []) :
    [] ∉ (Url.pathPieces .web (Text.joinWith "/" segments ++ closing).toList).dropLast ∧
      Url.namedPieces (Text.joinWith "/" segments ++ closing).toList =
        segments.map String.toList :=
  namedPieces_joined (fun segment member => (plain segment member).isKept.noSlash)
    (fun member => (plain "" member).named rfl) closed

theorem joinWith_ne_empty (plain : ∀ segment ∈ segments, IsPlain segment) (some : segments ≠ []) :
    Text.joinWith "/" segments ≠ "" := by
  intro nothing
  obtain ⟨-, pieces⟩ := namedPieces_plain plain (.inl rfl)
  rw [nothing] at pieces
  exact some (List.map_eq_nil_iff.mp pieces.symm)

/-- No slash stands at an end of a path through plain segments. -/
theorem noSlash_joinWith (plain : ∀ segment ∈ segments, IsPlain segment) :
    (∀ c ∈ (Text.joinWith "/" segments).toList.head?, (c == '/') = false) ∧
      ∀ c ∈ (Text.joinWith "/" segments).toList.getLast?, (c == '/') = false := by
  have areSteps : ∀ segment ∈ segments, Path.IsStep segment := fun segment member =>
    (plain segment member).isName.isStep
  refine ⟨fun c first => beq_eq_false_iff_ne.mpr ?_, fun c isLast => beq_eq_false_iff_ne.mpr ?_⟩
  · rintro rfl
    exact Path.head?_ofSteps areSteps first
  · rcases List.eq_nil_or_concat segments with rfl | ⟨before, last, rfl⟩
    · cases isLast
    · rw [List.concat_eq_append] at plain isLast
      have isPlain := plain last (List.mem_append_right before List.mem_cons_self)
      obtain ⟨front, spelled⟩ := Path.suffix_ofNames before last
      have inLast : c ∈ (front ++ last.toList).getLast? := spelled ▸ isLast
      rw [List.getLast?_append_of_ne_nil] at inLast
      · rintro rfl
        exact isPlain.notMem (by decide) (List.mem_of_getLast? inLast)
      · exact fun nothing => isPlain.named (String.toList_eq_nil_iff.mp nothing)

/-- A path through plain segments stays as it is. -/
theorem normalize_through (plain : ∀ segment ∈ segments, IsPlain segment) :
    normalize (through segments) = through segments := by
  have normal := normalize_through_kept (isKept_plain plain) (nil_notMem_plain plain)
  rwa [map_ofList_toList] at normal

end Segments

/-! ## Steps -/

/-- A step of a relative path. -/
inductive Step where
  /-- A `.`, which leads nowhere else. -/
  | here
  /-- A `..`, which leads out of the last segment. -/
  | up
  | into (segment : String)
  deriving DecidableEq, Repr

namespace Step

/-- The text of a step. -/
def text : Step → String
  | here => "."
  | up => ".."
  | into segment => segment

/-- The segments after one more step. -/
def after (segments : List String) : Step → List String
  | here => segments
  | up => segments.dropLast
  | into segment => segments ++ [segment]

/-- A step into a segment is one into a plain segment. -/
def IsPlain : Step → Prop
  | here | up => True
  | into segment => Route.IsPlain segment

instance : DecidablePred IsPlain
  | here | up => inferInstanceAs (Decidable True)
  | into segment => inferInstanceAs (Decidable (Route.IsPlain segment))

/-- The characters of a step are kept in paths, and none of them is a slash or a colon. -/
theorem IsPlain.chars {step : Step} (plain : step.IsPlain) : ∀ c ∈ step.text.toList,
    Url.keepsInPath c = true ∧ Url.isPathSlash .web c = false ∧ c ≠ ':' := by
  intro c member
  cases step with
  | here =>
    obtain rfl := List.mem_singleton.mp member
    decide
  | up =>
    obtain rfl : c = '.' := List.eq_of_mem_replicate (n := 2) member
    decide
  | into segment =>
    obtain ⟨keeps, noSlash, other⟩ := isPlainChar_spec (Route.IsPlain.plain plain c member)
    refine ⟨keeps, noSlash, ?_⟩
    rintro rfl
    exact other (by decide)

/-- Only dots stand next to a dot in a step. -/
theorem IsPlain.eq_dot {step : Step} (plain : step.IsPlain) (dot : '.' ∈ step.text.toList) :
    ∀ c ∈ step.text.toList, c = '.' := by
  intro c member
  cases step with
  | here => exact List.mem_singleton.mp member
  | up => exact List.eq_of_mem_replicate (n := 2) member
  | into segment => exact absurd dot (Route.IsPlain.notMem plain (by decide))

theorem IsPlain.named {step : Step} (plain : step.IsPlain) : step.text ≠ "" := by
  cases step with
  | here => decide
  | up => decide
  | into segment => exact Route.IsPlain.named plain

variable {segments : List String} {steps : List Step}

/-- **A step reads as what it does.** -/
theorem IsPlain.pushPiece_eq {step : Step} (isPlain : step.IsPlain)
    (plain : ∀ segment ∈ segments, Route.IsPlain segment) :
    Url.pushPiece .web (segments.map String.toList) step.text.toList =
      (after segments step).map String.toList := by
  cases step with
  | here => rfl
  | up => exact shorten_plain plain
  | into segment =>
    rw [text, (Route.IsPlain.isKept isPlain).pushPiece_eq, after, List.map_append]
    rfl

/-- Plain steps keep segments plain. -/
theorem IsPlain.after {step : Step} (isPlain : step.IsPlain)
    (plain : ∀ segment ∈ segments, Route.IsPlain segment) :
    ∀ segment ∈ step.after segments, Route.IsPlain segment := by
  cases step with
  | here => exact plain
  | up => exact fun segment member => plain segment (List.dropLast_subset segments member)
  | into name =>
    intro segment member
    rcases List.mem_append.mp member with before | isName
    · exact plain segment before
    · exact List.mem_singleton.mp isName ▸ isPlain

end Step

section Steps

variable {segments : List String} {steps : List Step}

theorem isPlain_steps (arePlain : ∀ step ∈ steps, step.IsPlain)
    (plain : ∀ segment ∈ segments, IsPlain segment) :
    ∀ segment ∈ steps.foldl Step.after segments, IsPlain segment := by
  induction steps generalizing segments with
  | nil => exact plain
  | cons step more ih =>
    exact ih (fun other member => arePlain other (List.mem_cons_of_mem step member))
      ((arePlain step List.mem_cons_self).after plain)

/-- **Walking along the texts of plain steps is taking these steps.** -/
theorem walk_steps (arePlain : ∀ step ∈ steps, step.IsPlain)
    (plain : ∀ segment ∈ segments, IsPlain segment) :
    walk (segments.map String.toList) (steps.map fun step => step.text.toList) =
      (steps.foldl Step.after segments).map String.toList := by
  induction steps generalizing segments with
  | nil => rfl
  | cons step more ih =>
    have isPlain := arePlain step List.mem_cons_self
    rw [List.map_cons, walk, List.foldl_cons, isPlain.pushPiece_eq plain, ← walk,
      ih (fun other member => arePlain other (List.mem_cons_of_mem step member)) (isPlain.after plain),
      List.foldl_cons]

end Steps

end Docsite.Route
