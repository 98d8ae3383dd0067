/-
**The lines of a text.**

A text is empty, or a last line without an end, or a line with its end and a text behind it. The lines of
a text are read off this form, one by one.

* `Line.EndsBefore`: the characters that end a line in front of a text.
* `Line.byLines`: induction over the lines of a text.
* `Line.splitFrom_add`: the lines of a text that stands further on.
-/

import Docsite.Proofs.Markdown.Shift

namespace Docsite.Markdown.Line

/-- Characters that end a line in front of a text. -/
inductive EndsBefore : List Char → List Char → Prop
  | pair {rest : List Char} : EndsBefore ['\r', '\n'] rest
  | feed {rest : List Char} : EndsBefore ['\n'] rest
  | single {rest : List Char} : rest.head? ≠ some '\n' → EndsBefore ['\r'] rest

/-- No character ends the line. -/
def IsPlain (chars : List Char) : Prop :=
  ∀ c ∈ chars, isLineEnd c = false

section Splitting

variable {start : Nat} {c : Char} {chars ending rest : List Char}

theorem IsPlain.of_cons (plain : IsPlain (c :: chars)) : IsPlain chars :=
  fun other member => plain other (List.mem_cons_of_mem c member)

theorem IsPlain.head_ne (plain : IsPlain (c :: chars)) : c ≠ '\n' ∧ c ≠ '\r' := by
  have isPlain := plain c List.mem_cons_self
  simpa [isLineEnd] using isPlain

/-! ## Reading one line -/

/-- In the middle of a line a text is read as at its start, except that the line may end with it. -/
theorem splitLine_of_ne_nil (nonempty : rest ≠ []) :
    splitFrom.splitLine start rest = splitFrom start rest := by
  rw [splitFrom.splitLine.eq_def, splitFrom.eq_def]
  split
  · exact absurd rfl nonempty
  all_goals rfl

theorem splitFrom_cons (plain : IsPlain (c :: chars)) :
    splitFrom start (c :: rest) = cons start c (splitFrom.splitLine (start + 1) rest) := by
  obtain ⟨notFeed, notReturn⟩ := plain.head_ne
  rw [splitFrom]
  · exact fun _ isReturn => absurd isReturn notReturn
  · exact notFeed
  · exact notReturn

/-- A text without an end of a line is one line. -/
theorem splitFrom_last (plain : IsPlain chars) (nonempty : chars ≠ []) :
    splitFrom start chars = [{ start, chars, ending := [] }] := by
  induction chars generalizing start with
  | nil => exact absurd rfl nonempty
  | cons c chars ih =>
    rw [splitFrom_cons plain]
    by_cases last : chars = []
    · rw [last]
      rfl
    · rw [splitLine_of_ne_nil last, ih plain.of_cons last]
      rfl

/-- **The first line of a text,** and the lines of the text behind it. -/
theorem splitFrom_line (plain : IsPlain chars) (ends : EndsBefore ending rest) :
    splitFrom start (chars ++ ending ++ rest) =
      { start, chars, ending } :: splitFrom (start + chars.length + ending.length) rest := by
  induction chars generalizing start with
  | nil =>
    cases ends with
    | pair => rfl
    | feed => rfl
    | single notFeed =>
      show splitFrom start ('\r' :: rest) = _
      rw [splitFrom]
      · rfl
      · rintro more rfl
        exact notFeed rfl
  | cons c chars ih =>
    have nonempty : chars ++ ending ++ rest ≠ [] := by
      cases ends <;> simp
    rw [List.cons_append, List.cons_append, splitFrom_cons plain, splitLine_of_ne_nil nonempty,
      ih plain.of_cons, List.length_cons, ← Nat.add_assoc, Nat.add_right_comm start]
    rfl

/-! ## Reading line by line -/

/-- A text is empty, a last line, or a line with a text behind it. -/
theorem exists_line (cs : List Char) :
    ∃ chars, IsPlain chars ∧
      (cs = chars ∨ ∃ ending rest, EndsBefore ending rest ∧ cs = chars ++ ending ++ rest) := by
  induction cs with
  | nil => exact ⟨[], nofun, .inl rfl⟩
  | cons c cs ih =>
    by_cases feed : c = '\n'
    · subst feed
      exact ⟨[], nofun, .inr ⟨['\n'], cs, .feed, rfl⟩⟩
    · by_cases isReturn : c = '\r'
      · subst isReturn
        refine ⟨[], nofun, .inr ?_⟩
        cases cs with
        | nil => exact ⟨['\r'], [], .single nofun, rfl⟩
        | cons d rest =>
          by_cases pair : d = '\n'
          · subst pair
            exact ⟨['\r', '\n'], rest, .pair, rfl⟩
          · exact ⟨['\r'], d :: rest, .single (by simpa using pair), rfl⟩
      · obtain ⟨chars, plain, form⟩ := ih
        refine ⟨c :: chars, ?_, ?_⟩
        · rintro other (_ | ⟨_, member⟩)
          · simp [isLineEnd, feed, isReturn]
          · exact plain other member
        · rcases form with rfl | ⟨ending, rest, ends, rfl⟩
          · exact .inl rfl
          · exact .inr ⟨ending, rest, ends, rfl⟩

end Splitting

/-- **Induction over the lines of a text.** -/
theorem byLines {motive : List Char → Prop} (nil : motive [])
    (last : ∀ chars, IsPlain chars → chars ≠ [] → motive chars)
    (line : ∀ chars ending rest, IsPlain chars → EndsBefore ending rest → motive rest →
      motive (chars ++ ending ++ rest)) (cs : List Char) : motive cs := by
  induction size : cs.length using Nat.strongRecOn generalizing cs with
  | _ size ih =>
    obtain ⟨chars, plain, rfl | ⟨ending, rest, ends, rfl⟩⟩ := exists_line cs
    · by_cases empty : cs = []
      · exact empty ▸ nil
      · exact last cs plain empty
    · refine line chars ending rest plain ends (ih rest.length ?_ rest rfl)
      rw [← size, List.length_append, List.length_append]
      cases ends <;> simp

/-- **The lines of a text that stands further on** stand further on themselves. -/
theorem splitFrom_add (distance start : Nat) (cs : List Char) :
    splitFrom (start + distance) cs = (splitFrom start cs).map (shift distance) := by
  induction cs using byLines generalizing start with
  | nil => rfl
  | last chars plain nonempty =>
    rw [splitFrom_last plain nonempty, splitFrom_last plain nonempty]
    rfl
  | line chars ending rest plain ends ih =>
    rw [splitFrom_line plain ends, splitFrom_line plain ends, List.map_cons, ← ih,
      Nat.add_right_comm start, Nat.add_right_comm (start + chars.length)]

end Docsite.Markdown.Line
