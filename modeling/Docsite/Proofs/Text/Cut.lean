/-
**First occurrences.**

A text is cut where another one stands in it for the first time. It is not cut if the other one stands
nowhere in it.

* `splitOn_append`, `splitOn_append_sep`: the pieces of a text behind another one.
* `FirstAt`: where a text stands for the first time.
* `cutAt?_eq_some`, `occursIn_iff`: cutting finds exactly these places.
-/

import Mathlib.Data.List.Infix
import Docsite.Text.Cut

namespace Docsite.Text

/-! ## Pieces -/

section Pieces

variable {sep : Char} {front rest : List Char}

/-- A text without separators stands in front of the first piece. -/
theorem splitOn_append (noSep : sep ∉ front) (rest : List Char) :
    ∃ piece pieces, splitOn sep (front ++ rest) = (front ++ piece) :: pieces := by
  induction front with
  | nil => exact List.exists_cons_of_ne_nil (splitOn_ne_nil sep rest)
  | cons c front ih =>
    obtain ⟨isOther, noSep⟩ := not_or.mp (mt List.mem_cons.mpr noSep)
    obtain ⟨piece, pieces, pieced⟩ := ih noSep
    refine ⟨piece, pieces, ?_⟩
    rw [List.cons_append, splitOn, if_neg (by simpa using Ne.symm isOther), pieced]
    rfl

/-- The pieces before and behind a separator. -/
theorem splitOn_append_sep (sep : Char) (front rest : List Char) :
    splitOn sep (front ++ sep :: rest) = splitOn sep front ++ splitOn sep rest := by
  induction front with
  | nil =>
    show splitOn sep (sep :: rest) = [] :: splitOn sep rest
    rw [splitOn, if_pos (beq_self_eq_true sep)]
  | cons c front ih =>
    rw [List.cons_append, splitOn, splitOn, ih]
    split
    · rfl
    · cases found : splitOn sep front with
      | nil => exact absurd found (splitOn_ne_nil sep front)
      | cons piece pieces => rfl

end Pieces

/-! ## Places -/

/-- A text stands in another one between `before` and `after`, and nowhere further in front. -/
structure FirstAt (needle cs before after : List Char) : Prop where
  split : cs = before ++ needle ++ after
  first : ∀ front back, cs = front ++ needle ++ back → before.length ≤ front.length

section Cutting

variable {needle cs before after : List Char} {c : Char} {rest : List Char}

/-- What a text with more behind it begins with stands in front of every character that it does not
hold. -/
theorem prefix_of_prefix_append (outside : c ∉ needle) (front : needle <+: cs ++ c :: rest) :
    needle <+: cs := by
  obtain ⟨after, spelled⟩ := front
  rcases List.append_eq_append_iff.mp spelled with ⟨more, rfl, -⟩ | ⟨missing, rfl, isRest⟩
  · exact List.prefix_append needle more
  · cases missing with
    | nil => rw [List.append_nil]
    | cons d missing =>
      obtain ⟨rfl, -⟩ := List.cons.inj isRest
      exact absurd (List.mem_append_right cs List.mem_cons_self) outside

theorem dropFront?_eq_some : dropFront? needle cs = some after ↔ cs = needle ++ after := by
  constructor
  · exact fun dropped => (append_of_dropFront? dropped).symm
  · rintro rfl
    rw [dropFront?, if_pos (List.isPrefixOf_iff_prefix.mpr (List.prefix_append needle after)),
      List.drop_left]

theorem dropFront?_eq_none : dropFront? needle cs = none ↔ ¬ needle <+: cs := by
  rw [dropFront?, ← List.isPrefixOf_iff_prefix]
  split <;> simp_all

/-- What a text begins with stands there for the first time. -/
theorem firstAt_of_front (front : needle <+: cs) :
    FirstAt needle cs before after ↔ before = [] ∧ cs = needle ++ after := by
  constructor
  · rintro ⟨rfl, first⟩
    obtain ⟨back, spelled⟩ := front
    have empty : before = [] :=
      List.eq_nil_of_length_eq_zero (Nat.le_zero.mp (first [] back spelled.symm))
    subst empty
    exact ⟨rfl, rfl⟩
  · rintro ⟨rfl, rfl⟩
    exact ⟨rfl, fun _ _ _ => Nat.zero_le _⟩

/-- Anything else stands for the first time behind the first character. -/
theorem firstAt_behind (inside : ¬ needle <+: c :: rest) :
    FirstAt needle (c :: rest) before after ↔
      ∃ front, before = c :: front ∧ FirstAt needle rest front after := by
  constructor
  · rintro ⟨split, first⟩
    cases before with
    | nil => exact absurd ⟨after, split.symm⟩ inside
    | cons d front =>
      obtain ⟨rfl, same⟩ := List.cons.inj split
      refine ⟨front, rfl, same, fun other back spelled => ?_⟩
      exact Nat.le_of_succ_le_succ (first (c :: other) back (congrArg (c :: ·) spelled))
  · rintro ⟨front, rfl, ⟨rfl, first⟩⟩
    refine ⟨rfl, fun other back spelled => ?_⟩
    cases other with
    | nil => exact absurd ⟨back, spelled.symm⟩ inside
    | cons d other => exact Nat.succ_le_succ (first other back (List.cons.inj spelled).2)

/-- **A text is cut where the other one stands for the first time.** -/
theorem cutAt?_eq_some :
    cutAt? needle cs = some (before, after) ↔ FirstAt needle cs before after := by
  induction cs generalizing before with
  | nil =>
    cases needle with
    | nil =>
      have atEnd : cutAt? [] [] = some ([], []) := rfl
      rw [firstAt_of_front List.nil_prefix, List.nil_append, atEnd, Option.some.injEq,
        Prod.mk.injEq]
      exact and_congr eq_comm Iff.rfl
    | cons d more =>
      refine iff_of_false (fun found => nomatch found) ?_
      rintro ⟨split, -⟩
      simp at split
  | cons c rest ih =>
    rw [cutAt?]
    cases dropped : dropFront? needle (c :: rest) with
    | some back =>
      have spelled := dropFront?_eq_some.mp dropped
      rw [firstAt_of_front ⟨back, spelled.symm⟩, spelled, List.append_cancel_left_eq,
        Option.some.injEq, Prod.mk.injEq]
      exact and_congr eq_comm Iff.rfl
    | none =>
      rw [firstAt_behind (dropFront?_eq_none.mp dropped)]
      constructor
      · intro found
        obtain ⟨⟨front, back⟩, inner, same⟩ := Option.map_eq_some_iff.mp found
        obtain ⟨rfl, rfl⟩ := Prod.mk.inj same
        exact ⟨front, rfl, ih.mp inner⟩
      · rintro ⟨front, rfl, place⟩
        exact Option.map_eq_some_iff.mpr ⟨(front, after), ih.mpr place, rfl⟩

/-- Where a text stands in another one, it stands for the first time somewhere. -/
theorem exists_firstAt (inside : needle <:+: cs) :
    ∃ before after, FirstAt needle cs before after := by
  induction cs with
  | nil =>
    obtain rfl := List.infix_nil.mp inside
    exact ⟨[], [], (firstAt_of_front List.prefix_rfl).mpr ⟨rfl, rfl⟩⟩
  | cons c rest ih =>
    by_cases front : needle <+: c :: rest
    · obtain ⟨after, spelled⟩ := front
      exact ⟨[], after, (firstAt_of_front ⟨after, spelled⟩).mpr ⟨rfl, spelled.symm⟩⟩
    · obtain ⟨before, after, place⟩ := ih ((List.infix_cons_iff.mp inside).resolve_left front)
      exact ⟨c :: before, after, (firstAt_behind front).mpr ⟨before, rfl, place⟩⟩

/-- **A text occurs in another one exactly if it stands somewhere in it.** -/
theorem occursIn_iff : occursIn needle cs = true ↔ needle <:+: cs := by
  rw [occursIn, Option.isSome_iff_exists]
  constructor
  · rintro ⟨⟨before, after⟩, found⟩
    obtain ⟨rfl, -⟩ := cutAt?_eq_some.mp found
    exact ⟨before, after, rfl⟩
  · intro inside
    obtain ⟨before, after, place⟩ := exists_firstAt inside
    exact ⟨(before, after), cutAt?_eq_some.mpr place⟩

end Cutting

end Docsite.Text
