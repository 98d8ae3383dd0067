/-
**White space between two words.**

What separates two words is read at once, up to the next word, and leaves the place there: on the same
line behind blanks, or as many columns into the next line as there are spaces in front of it.

* `Gap.read?_blanks`: blanks up to a word.
* `IsGap`: what separates two words of a scalar.
* `Gap.read?_gap`: where reading it ends.
-/

import Docsite.Yaml.Place

namespace Docsite.Yaml

/-! ## Places -/

section Places

variable {place : Place} {c : Char} {cs rest : List Char}

theorem isSpace_eq_false_iff : isSpace c = false ↔ isBlank c = false ∧ isBreak c = false := by
  rw [isSpace, Bool.or_eq_false_iff]

theorem isBreak_of_isBlank (blank : isBlank c = true) : isBreak c = false := by
  have cases : c = ' ' ∨ c = '\t' := by simpa [isBlank] using blank
  rcases cases with rfl | rfl <;> rfl

namespace Place

@[simp] theorem skip_zero (place : Place) : place.skip 0 = place :=
  rfl

@[simp] theorem skip_skip (place : Place) (count more : Nat) :
    (place.skip count).skip more = place.skip (count + more) := by
  simp [skip, Nat.add_assoc]

@[simp] theorem column_skip (place : Place) (count : Nat) :
    (place.skip count).column = place.column + count :=
  rfl

theorem rest_skip (here : place.rest = cs ++ rest) : (place.skip cs.length).rest = rest := by
  rw [skip, here, List.drop_left]

theorem rest_skip_spaces {width : Nat} (here : place.rest = List.replicate width ' ' ++ rest) :
    (place.skip width).rest = rest := by
  simpa using rest_skip here

theorem rest_skip_one (here : place.rest = c :: rest) : (place.skip 1).rest = rest :=
  have atFirst : place.rest = [c] ++ rest := here
  rest_skip atFirst

/-- A class of characters is skipped up to the first one that is not in it. -/
theorem skipWhile_eq {p : Char → Bool} (inside : ∀ c ∈ cs, p c = true)
    (stops : ∀ c ∈ rest.head?, p c = false) (here : place.rest = cs ++ rest) :
    place.skipWhile p = place.skip cs.length := by
  have nothing : rest.takeWhile p = [] := by
    cases rest with
    | nil => rfl
    | cons c rest => exact List.takeWhile_cons_of_neg (by simp [stops c rfl])
  rw [skipWhile, here, List.takeWhile_append_of_pos inside, nothing, List.append_nil]

/-- No line ends here if the text goes on with another character. -/
theorem takeBreak?_eq_none (here : place.rest = c :: rest) (stays : isBreak c = false) :
    place.takeBreak? = none := by
  have others : c ≠ '\n' ∧ c ≠ '\r' ∧ c ≠ '\u0085' ∧ c ≠ '\u2028' ∧ c ≠ '\u2029' := by
    simpa [isBreak, and_assoc] using stays
  unfold takeBreak?
  split <;> grind

theorem takeBreak?_newline (here : place.rest = '\n' :: rest) :
    place.takeBreak? = some ('\n', place.nextLine 1) := by
  simp [takeBreak?, here]

theorem rest_nextLine (here : place.rest = '\n' :: rest) : (place.nextLine 1).rest = rest := by
  rw [nextLine, here, List.drop_one, List.tail_cons]

/-- Documents are marked at the start of a line only. -/
theorem atMarker_eq_false (inside : 0 < place.column) (c : Char) : place.atMarker c = false := by
  rw [atMarker, beq_false_of_ne (Nat.ne_of_gt inside), Bool.false_and]

theorem atDocumentMarker_eq_false (inside : 0 < place.column) : place.atDocumentMarker = false := by
  rw [atDocumentMarker, atMarker_eq_false inside, atMarker_eq_false inside, Bool.or_false]

/-- A mark stands in front of the text. -/
theorem front_of_atMarker (marked : place.atMarker c = true) : [c, c, c] <+: place.rest := by
  rw [atMarker, Bool.and_eq_true] at marked
  obtain ⟨-, marked⟩ := marked
  split at marked
  · next c₀ c₁ c₂ rest here =>
    simp only [Bool.and_eq_true, beq_iff_eq] at marked
    obtain ⟨⟨⟨rfl, rfl⟩, rfl⟩, -⟩ := marked
    exact ⟨rest, by rw [here]; rfl⟩
  · cases marked

end Place

end Places

/-! ## Gaps -/

section Gaps

variable {tabColumn : Nat} {place : Place} {blanks tail : List Char} {c : Char}

theorem Gap.first_addBlank (gap : Gap) (c : Char) : (gap.addBlank c).first = gap.first := by
  unfold addBlank
  split <;> simp_all

/-- Blanks are read one by one. Behind a line end only spaces are safe. -/
theorem Gap.readFrom_append (tabColumn : Nat) (gap : Gap) (isBlanks : ∀ b ∈ blanks, isBlank b = true)
    (noTab : gap.first.isSome = true → ∀ b ∈ blanks, b = ' ') (here : place.rest = blanks ++ tail)
    (fuel : Nat) :
    ∃ read, read.first = gap.first ∧ Gap.readFrom tabColumn (blanks.length + fuel) gap place =
      Gap.readFrom tabColumn fuel read (place.skip blanks.length) := by
  induction blanks generalizing gap place with
  | nil => exact ⟨gap, rfl, by simp⟩
  | cons b blanks ih =>
    have isBlank := isBlanks b List.mem_cons_self
    have safe : ¬ (b == '\t' && gap.first.isSome && place.column < tabColumn) = true := by
      rintro tab
      simp only [Bool.and_eq_true, beq_iff_eq] at tab
      have space := noTab tab.1.2 b List.mem_cons_self
      exact absurd (tab.1.1.symm.trans space) (by decide)
    obtain ⟨read, same, reads⟩ := ih (gap.addBlank b)
      (fun d member => isBlanks d (List.mem_cons_of_mem b member))
      (fun broken d member => noTab (gap.first_addBlank b ▸ broken) d (List.mem_cons_of_mem b member))
      (Place.rest_skip_one here)
    refine ⟨read, same.trans (gap.first_addBlank b), ?_⟩
    rw [List.length_cons, Nat.add_right_comm, Gap.readFrom,
      Place.takeBreak?_eq_none here (isBreak_of_isBlank isBlank), here]
    simp only [List.cons_append, isBlank, Bool.not_true, Bool.false_eq_true, if_false, if_neg safe]
    rw [reads, Place.skip_skip, Nat.add_comm 1]

/-- A word ends the white space. -/
theorem Gap.readFrom_word (word : isSpace c = false) (here : place.rest = c :: tail) (fuel : Nat)
    (gap : Gap) : Gap.readFrom tabColumn fuel gap place = some (gap, place) := by
  obtain ⟨notBlank, notBreak⟩ := isSpace_eq_false_iff.mp word
  cases fuel with
  | zero => rfl
  | succ fuel =>
    rw [Gap.readFrom, Place.takeBreak?_eq_none here notBreak, here]
    simp [notBlank]

/-- **Blanks in front of a word** are read up to it. -/
theorem Gap.read?_blanks (tabColumn : Nat) (isBlanks : ∀ b ∈ blanks, isBlank b = true)
    (word : isSpace c = false) (here : place.rest = blanks ++ c :: tail) :
    ∃ read : Gap, read.first = none ∧
      Gap.read? tabColumn {} place = some (read, place.skip blanks.length) := by
  obtain ⟨read, same, reads⟩ :=
    Gap.readFrom_append tabColumn {} isBlanks nofun here (c :: tail).length
  refine ⟨read, same, ?_⟩
  rw [Gap.read?, here, List.length_append, reads, Gap.readFrom_word word (Place.rest_skip here)]

/-- What separates two words of a scalar whose further lines are indented by at least `indent` columns:
blanks, or the end of a line and the spaces in front of the next one. -/
inductive IsGap (indent : Nat) : List Char → Prop
  | blanks {blanks : List Char} : blanks ≠ [] → (∀ b ∈ blanks, isBlank b = true) →
      IsGap indent blanks
  | line {blanks : List Char} {width : Nat} : (∀ b ∈ blanks, isBlank b = true) → indent ≤ width →
      0 < width → IsGap indent (blanks ++ '\n' :: List.replicate width ' ')

variable {indent : Nat} {gap : List Char}

theorem IsGap.exists_space (isGap : IsGap indent gap) :
    ∃ d more, gap = d :: more ∧ isSpace d = true := by
  have first {d : Char} {more : List Char} (isBlanks : ∀ b ∈ d :: more, isBlank b = true) :
      isSpace d = true := by
    rw [isSpace, isBlanks d List.mem_cons_self, Bool.true_or]
  cases isGap with
  | blanks some isBlanks =>
    obtain ⟨d, more, rfl⟩ := List.exists_cons_of_ne_nil some
    exact ⟨d, more, rfl, first isBlanks⟩
  | @line blanks width isBlanks =>
    cases blanks with
    | nil => exact ⟨'\n', _, rfl, rfl⟩
    | cons d more => exact ⟨d, _, rfl, first isBlanks⟩

/-- **A gap is read up to the next word,** which is not indented less than it has to be and does not
stand at the start of a line. -/
theorem Gap.read?_gap (tabColumn : Nat) (isGap : IsGap indent gap) (word : isSpace c = false)
    (here : place.rest = gap ++ c :: tail) (deep : indent ≤ place.column) :
    ∃ read next, Gap.read? tabColumn {} place = some (read, next) ∧ next.rest = c :: tail ∧
      indent ≤ next.column ∧ 0 < next.column := by
  cases isGap with
  | blanks some isBlanks =>
    obtain ⟨read, -, reads⟩ := Gap.read?_blanks tabColumn isBlanks word here
    refine ⟨read, _, reads, Place.rest_skip here, Nat.le_add_right_of_le deep, ?_⟩
    exact Nat.add_pos_right _ (List.length_pos_iff.mpr some)
  | @line blanks width isBlanks deeper inside =>
    -- The blanks, the end of the line, and the spaces of the next one.
    let spaces := List.replicate width ' '
    have areSpaces : ∀ b ∈ spaces, b = ' ' := fun b => List.eq_of_mem_replicate
    have atBreak : place.rest = blanks ++ '\n' :: (spaces ++ c :: tail) := by
      simpa [spaces] using here
    have breaks : (place.skip blanks.length).rest = '\n' :: (spaces ++ c :: tail) :=
      Place.rest_skip atBreak
    have behind := Place.rest_nextLine breaks
    obtain ⟨first, -, reads⟩ := Gap.readFrom_append tabColumn {} isBlanks nofun atBreak
      ((spaces ++ c :: tail).length + 1)
    obtain ⟨read, -, readsOn⟩ := Gap.readFrom_append tabColumn (first.addBreak '\n')
      (fun b member => by rw [areSpaces b member]; rfl) (fun _ => areSpaces) behind (c :: tail).length
    refine ⟨read, ((place.skip blanks.length).nextLine 1).skip spaces.length, ?_,
      Place.rest_skip behind, ?_, ?_⟩
    · rw [Gap.read?, atBreak, List.length_append, List.length_cons, reads, Gap.readFrom,
        Place.takeBreak?_newline breaks]
      simp only
      rw [List.length_append, readsOn, Gap.readFrom_word word (Place.rest_skip behind)]
    · simpa [Place.nextLine, spaces] using deeper
    · simpa [Place.nextLine, spaces] using inside

end Gaps

end Docsite.Yaml
