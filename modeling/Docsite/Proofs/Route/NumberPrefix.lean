/-
**How an ordering number is told from a name.**

A segment with an ordering number is spelled by a number, by separators with blanks around them, and by a
name. There is at most one way to read it like this: every part ends where the next one starts, since no
character is of two of these kinds and a name starts with none that could stand in front of it. A segment
that cannot be read like this is left as it is.

* `Spells.partsOf_eq`: the parts of a segment are found by going through it once.
* `Reads`, `Reads.unique`: a segment with an ordering number, which is read in one way only.
* `name?_eq_some_iff`: what stands behind an ordering number.
* `Numberless`: segments that look as if they had an ordering number, and have none.
* `strip_reads`: what is left of a segment.
-/

import Mathlib.Data.List.TakeWhile
import Docsite.Proofs.Text.Trim
import Docsite.Route.NumberPrefix

namespace Docsite.Route.NumberPrefix

/-! ## Kinds of characters -/

/-- A separator is neither a digit nor a blank. -/
theorem isSeparator_spec {c : Char} (separates : isSeparator c = true) :
    Text.isDecimalDigit c = false ∧ Text.isBlank c = false := by
  simp only [isSeparator, Bool.or_eq_true, beq_iff_eq] at separates
  rcases separates with (rfl | rfl) | rfl <;> decide

/-- The numbers of the blanks. -/
def blankNumbers : List Nat :=
  List.range' 9 5 ++ List.range' 0x2000 11 ++
    [0x20, 0x85, 0xA0, 0x1680, 0x2028, 0x2029, 0x202F, 0x205F, 0x3000]

/-- A blank is neither a digit nor a separator. -/
theorem isBlank_spec {c : Char} (blank : Text.isBlank c = true) :
    Text.isDecimalDigit c = false ∧ isSeparator c = false := by
  have isNumber : c.toNat ∈ blankNumbers := by
    simp only [Text.isBlank, Bool.or_eq_true, Bool.and_eq_true, decide_eq_true_eq,
      beq_iff_eq] at blank
    simp only [blankNumbers, List.mem_append, List.mem_range'_1, List.mem_cons, List.not_mem_nil]
    omega
  have noDigit : ∀ n ∈ blankNumbers,
      (Text.digitZeros.any fun first => first ≤ n && n ≤ first + 9) = false := by
    decide +kernel
  refine ⟨noDigit _ isNumber, Bool.eq_false_iff.mpr fun separates => ?_⟩
  rw [(isSeparator_spec separates).2] at blank
  cases blank

/-! ## Parts of a segment -/

/-- A number, separators with blanks before and behind them, and what is left. -/
structure Parts where
  digits : List Char
  before : List Char
  separators : List Char
  behind : List Char
  name : List Char
  deriving DecidableEq, Repr

variable {segment : List Char} {parts other : Parts}

/-- A segment is spelled by digits, separators with blanks before and behind them, and something else. -/
structure Spells (segment : List Char) (parts : Parts) : Prop where
  spelled : segment =
    parts.digits ++ (parts.before ++ (parts.separators ++ (parts.behind ++ parts.name)))
  areDigits : ∀ c ∈ parts.digits, Text.isDecimalDigit c = true
  blanksBefore : ∀ c ∈ parts.before, Text.isBlank c = true
  someSeparators : parts.separators ≠ []
  areSeparators : ∀ c ∈ parts.separators, isSeparator c = true
  blanksBehind : ∀ c ∈ parts.behind, Text.isBlank c = true

/-- The parts that are found by going through a segment once, each as long as it can be. -/
def partsOf (segment : List Char) : Parts :=
  let behindNumber := segment.dropWhile Text.isDecimalDigit
  let marks := behindNumber.dropWhile Text.isBlank
  let behindMarks := marks.dropWhile isSeparator
  { digits := segment.takeWhile Text.isDecimalDigit
    before := behindNumber.takeWhile Text.isBlank
    separators := marks.takeWhile isSeparator
    behind := behindMarks.takeWhile Text.isBlank
    name := behindMarks.dropWhile Text.isBlank }

/-- Nothing is lost by going through a segment. -/
theorem spelled_partsOf (segment : List Char) :
    segment = (partsOf segment).digits ++ ((partsOf segment).before ++
      ((partsOf segment).separators ++ ((partsOf segment).behind ++ (partsOf segment).name))) := by
  simp only [partsOf, List.takeWhile_append_dropWhile]

/-- Characters of one kind are found in front of a text that does not go on with that kind. -/
theorem span_append {p : Char → Bool} {front rest : List Char} (inside : ∀ c ∈ front, p c = true)
    (stops : ∀ c ∈ rest.head?, p c = false) :
    (front ++ rest).takeWhile p = front ∧ (front ++ rest).dropWhile p = rest := by
  have drops : rest.dropWhile p = rest := Text.dropWhile_eq_self stops
  have takes : rest.takeWhile p = [] := by
    have whole := List.takeWhile_append_dropWhile (p := p) (l := rest)
    rwa [drops, List.append_left_eq_self] at whole
  rw [List.takeWhile_append_of_pos inside, List.dropWhile_append_of_pos inside, takes, drops,
    List.append_nil]
  exact ⟨rfl, rfl⟩

/-- A text does not start with a kind of character that its front has none of, if what stands behind the
front does not start with it. -/
theorem head?_append_eq_false {p : Char → Bool} {front rest : List Char}
    (inFront : ∀ c ∈ front, p c = false) (behind : ∀ c ∈ rest.head?, p c = false) :
    ∀ c ∈ (front ++ rest).head?, p c = false := by
  intro c isFirst
  cases front with
  | nil => exact behind c isFirst
  | cons d more => exact inFront c (Option.some.inj isFirst ▸ List.mem_cons_self)

/-- **The parts of a segment are found by going through it once,** if the separators do not go on behind
the blanks, nor the blanks in the name. -/
theorem Spells.partsOf_eq (spells : Spells segment parts)
    (noSeparator : ∀ c ∈ (parts.behind ++ parts.name).head?, isSeparator c = false)
    (noBlank : ∀ c ∈ parts.name.head?, Text.isBlank c = false) : partsOf segment = parts := by
  obtain ⟨digits, before, separators, behind, name⟩ := parts
  obtain ⟨spelled, areDigits, blanksBefore, someSeparators, areSeparators, blanksBehind⟩ := spells
  dsimp only at *
  -- The first separator ends the digits and the blanks in front of it, so there must be one.
  have isMark : ∀ c ∈ (separators ++ (behind ++ name)).head?, isSeparator c = true := by
    intro c isFirst
    rw [List.head?_append_of_ne_nil _ someSeparators] at isFirst
    exact areSeparators c (List.mem_of_head? isFirst)
  obtain ⟨takesDigits, dropsDigits⟩ := span_append areDigits <|
    head?_append_eq_false (fun c member => (isBlank_spec (blanksBefore c member)).1)
      fun c isFirst => (isSeparator_spec (isMark c isFirst)).1
  obtain ⟨takesBefore, dropsBefore⟩ := span_append blanksBefore fun c isFirst =>
    (isSeparator_spec (isMark c isFirst)).2
  obtain ⟨takesMarks, dropsMarks⟩ := span_append areSeparators noSeparator
  obtain ⟨takesBehind, dropsBehind⟩ := span_append blanksBehind noBlank
  simp only [partsOf, spelled, takesDigits, dropsDigits, takesBefore, dropsBefore, takesMarks,
    dropsMarks, takesBehind, dropsBehind]

/-! ## Segments with an ordering number -/

/-- A segment is read as one or more digits, one or more separators with any blanks around them, and a name
on one line that starts neither with a separator nor with a blank. -/
structure Reads (segment : List Char) (parts : Parts) : Prop extends Spells segment parts where
  someDigits : parts.digits ≠ []
  named : parts.name ≠ []
  oneLine : '\n' ∉ parts.name
  starts : ∀ c ∈ parts.name.head?, isSeparator c = false ∧ Text.isBlank c = false

theorem Reads.partsOf_eq (reads : Reads segment parts) : partsOf segment = parts :=
  reads.toSpells.partsOf_eq
    (head?_append_eq_false (fun c member => (isBlank_spec (reads.blanksBehind c member)).2)
      fun c isFirst => (reads.starts c isFirst).1)
    fun c isFirst => (reads.starts c isFirst).2

/-- **There is at most one way to read a segment.** -/
theorem Reads.unique (reads : Reads segment parts) (readsOther : Reads segment other) :
    other = parts :=
  readsOther.partsOf_eq.symm.trans reads.partsOf_eq

/-- Something goes from the front of a text exactly if what is left is shorter. -/
theorem length_dropWhile_lt_iff {p : Char → Bool} {cs : List Char} :
    (cs.dropWhile p).length < cs.length ↔ cs.takeWhile p ≠ [] := by
  have whole := congrArg List.length (List.takeWhile_append_dropWhile (p := p) (l := cs))
  rw [List.length_append] at whole
  rw [← List.length_pos_iff]
  omega

theorem startsName_iff {c : Char} :
    startsName c = true ↔ isSeparator c = false ∧ Text.isBlank c = false := by
  rw [startsName, Bool.and_eq_true, Bool.not_eq_true', Bool.not_eq_true']

/-- A segment has an ordering number if the parts that are found can be read. -/
theorem reads_partsOf_iff : Reads segment (partsOf segment) ↔
    (partsOf segment).digits ≠ [] ∧ (partsOf segment).separators ≠ [] ∧
      ((partsOf segment).name.head?.map startsName).getD false = true ∧ '\n' ∉ (partsOf segment).name := by
  constructor
  · intro reads
    refine ⟨reads.someDigits, reads.someSeparators, ?_, reads.oneLine⟩
    obtain ⟨first, rest, spelled⟩ := List.exists_cons_of_ne_nil reads.named
    rw [spelled]
    exact startsName_iff.mpr (reads.starts first (by rw [spelled]; rfl))
  · rintro ⟨someDigits, someSeparators, starts, oneLine⟩
    have areIn {p : Char → Bool} {cs : List Char} : ∀ c ∈ cs.takeWhile p, p c = true := fun c =>
      List.mem_takeWhile_imp
    refine ⟨⟨spelled_partsOf segment, areIn, areIn, someSeparators, areIn, areIn⟩, someDigits, ?_,
      oneLine, fun c isFirst => ?_⟩
    · intro nothing
      rw [nothing] at starts
      cases starts
    · rw [Option.mem_def.mp isFirst] at starts
      exact startsName_iff.mp starts

/-- **What stands behind an ordering number is the name of the one way to read the segment.** -/
theorem name?_eq_some_iff {name : List Char} :
    name? segment = some name ↔ ∃ parts, Reads segment parts ∧ parts.name = name := by
  have condition : name? segment = some name ↔
      Reads segment (partsOf segment) ∧ (partsOf segment).name = name := by
    rw [reads_partsOf_iff, name?]
    simp only [Bool.and_eq_true, decide_eq_true_eq, length_dropWhile_lt_iff, Bool.not_eq_true',
      List.contains_eq_mem, decide_eq_false_iff_not, Option.ite_none_right_eq_some, Option.some.injEq,
      and_assoc, partsOf]
  rw [condition]
  constructor
  · exact fun ⟨reads, same⟩ => ⟨partsOf segment, reads, same⟩
  · rintro ⟨parts, reads, rfl⟩
    rw [reads.partsOf_eq]
    exact ⟨reads, rfl⟩

/-! ## Segments without one -/

/-- Segments that look as if they had an ordering number: nothing but digits, a number and separators with
no name behind them, or separators that are split by blanks. -/
inductive Numberless (segment : List Char) : Prop
  | bare : (∀ c ∈ segment, Text.isDecimalDigit c = true) → Numberless segment
  | unnamed {parts : Parts} : Spells segment parts → parts.name = [] → Numberless segment
  | apart {parts : Parts} {mark : Char} {rest : List Char} : Spells segment parts →
      parts.behind ≠ [] → parts.name = mark :: rest → isSeparator mark = true → Numberless segment

/-- **Such a segment cannot be read as one with an ordering number.** -/
theorem Numberless.not_reads (numberless : Numberless segment) : ¬ Reads segment parts := by
  intro reads
  cases numberless with
  | bare areDigits =>
    have noSeparators : (partsOf segment).separators = [] := by
      have noRest : segment.dropWhile Text.isDecimalDigit = [] :=
        Text.dropWhile_eq_nil_iff_all.mpr areDigits
      simp only [partsOf, noRest, List.dropWhile_nil, List.takeWhile_nil]
    rw [reads.partsOf_eq] at noSeparators
    exact reads.someSeparators noSeparators
  | @unnamed found spells nameless =>
    have same : parts = found := by
      rw [← reads.partsOf_eq]
      refine spells.partsOf_eq ?_ (by rw [nameless]; nofun)
      exact head?_append_eq_false (fun c member => (isBlank_spec (spells.blanksBehind c member)).2)
        (by rw [nameless]; nofun)
    exact reads.named (same ▸ nameless)
  | @apart found mark rest spells someBlank name separates =>
    have same : parts = found := by
      rw [← reads.partsOf_eq]
      refine spells.partsOf_eq (fun c isFirst => ?_) fun c isFirst => ?_
      · rw [List.head?_append_of_ne_nil _ someBlank] at isFirst
        exact (isBlank_spec (spells.blanksBehind c (List.mem_of_head? isFirst))).2
      · rw [name] at isFirst
        exact Option.some.inj isFirst ▸ (isSeparator_spec separates).2
    have starts := (reads.starts mark (by rw [same, name]; rfl)).1
    rw [separates] at starts
    cases starts

/-! ## What is left of a segment -/

section Strip

variable {segment : String}

theorem strip_of_reads (reads : Reads segment.toList parts) :
    strip segment = String.ofList parts.name := by
  rw [strip, name?_eq_some_iff.mpr ⟨parts, reads, rfl⟩]
  rfl

theorem strip_of_not_reads (unread : ∀ parts, ¬ Reads segment.toList parts) :
    strip segment = segment := by
  cases found : name? segment.toList with
  | none =>
    rw [strip, found]
    rfl
  | some name =>
    obtain ⟨parts, reads, -⟩ := name?_eq_some_iff.mp found
    exact absurd reads (unread parts)

/-- What is left is the name behind an ordering number, or the whole segment. -/
theorem exists_reads_or_strip_eq (segment : String) :
    (∃ parts, Reads segment.toList parts ∧ strip segment = String.ofList parts.name) ∨
      strip segment = segment := by
  by_cases read : ∃ parts, Reads segment.toList parts
  · obtain ⟨parts, reads⟩ := read
    exact .inl ⟨parts, reads, strip_of_reads reads⟩
  · exact .inr (strip_of_not_reads (not_exists.mp read))

/-- What is left ends the segment. -/
theorem suffix_strip (segment : String) : (strip segment).toList <:+ segment.toList := by
  rcases exists_reads_or_strip_eq segment with ⟨parts, reads, name⟩ | whole
  · rw [name, String.toList_ofList, reads.spelled]
    simp only [← List.append_assoc]
    exact List.suffix_append _ _
  · simp only [whole, List.suffix_rfl]

/-- Something is left of a segment that is not empty. -/
theorem eq_empty_of_strip (empty : strip segment = "") : segment = "" := by
  rcases exists_reads_or_strip_eq segment with ⟨parts, reads, name⟩ | whole
  · rw [name, ← String.toList_eq_nil_iff, String.toList_ofList] at empty
    exact absurd empty reads.named
  · exact whole.symm.trans empty

end Strip

/-- **An ordering number is taken off exactly where there is one.** A segment can be read in at most one way
as digits, separators with blanks around them and a name; then the name is left. Otherwise the whole segment
is left, and so it is for a bare number, for a number and separators without a name, and for separators that
are split by blanks. What is left always ends the segment, and it is empty only if the segment is. -/
theorem strip_reads (segment : String) :
    (∀ parts, Reads segment.toList parts → strip segment = String.ofList parts.name ∧
      ∀ other, Reads segment.toList other → other = parts) ∧
    ((∀ parts, ¬ Reads segment.toList parts) → strip segment = segment) ∧
    (strip segment).toList <:+ segment.toList ∧
    (strip segment = "" → segment = "") ∧
    (Numberless segment.toList → strip segment = segment) := by
  refine ⟨fun parts reads => ⟨strip_of_reads reads, fun other => reads.unique⟩, strip_of_not_reads,
    suffix_strip segment, eq_empty_of_strip, fun numberless => ?_⟩
  exact strip_of_not_reads fun parts => numberless.not_reads

/-- A number with separators and blanks in front of a name that starts with a digit and has separators of
its own, and a name that a number does not stand in front of because its separators are split. -/
theorem strip_reads_blanks :
    Reads "٣4 -_.\t5 x-y".toList ⟨['٣', '4'], [' '], ['-', '_', '.'], ['\t'], "5 x-y".toList⟩ ∧
      strip "٣4 -_.\t5 x-y" = "5 x-y" ∧ Numberless "01. -x".toList ∧ strip "01. -x" = "01. -x" := by
  have reads : Reads "٣4 -_.\t5 x-y".toList
      ⟨['٣', '4'], [' '], ['-', '_', '.'], ['\t'], "5 x-y".toList⟩ :=
    { spelled := by decide
      areDigits := List.all_eq_true.mp (by decide)
      blanksBefore := List.all_eq_true.mp (by decide)
      someSeparators := by decide
      areSeparators := List.all_eq_true.mp (by decide)
      blanksBehind := List.all_eq_true.mp (by decide)
      someDigits := by decide
      named := by decide
      oneLine := by decide
      starts := fun c isFirst => Option.some.inj isFirst ▸ by decide }
  have spells : Spells "01. -x".toList ⟨['0', '1'], [], ['.'], [' '], ['-', 'x']⟩ :=
    { spelled := by decide
      areDigits := List.all_eq_true.mp (by decide)
      blanksBefore := nofun
      someSeparators := by decide
      areSeparators := List.all_eq_true.mp (by decide)
      blanksBehind := List.all_eq_true.mp (by decide) }
  have numberless : Numberless "01. -x".toList := .apart spells (by decide) rfl (by decide)
  exact ⟨reads, ((strip_reads _).1 _ reads).1, numberless, (strip_reads _).2.2.2.2 numberless⟩

end Docsite.Route.NumberPrefix
