/-
**What trimming leaves.**

A trimmed text neither starts nor ends with a character of the kind that was taken off, and a text that
does not is left as it is. Trimming twice is therefore trimming once.

* `dropBothWhile_eq_self_iff`: the texts that trimming leaves as they are.
* `dropBothWhile_append`: trimming a text with more behind it.
* `exists_padding`: what two ways of trimming at the end take off together.
-/

import Mathlib.Data.List.DropRight
import Docsite.Text.Blank

namespace Docsite.Text

section Ends

variable {p : Char → Bool} {cs : List Char}

/-! ## One end -/

theorem head?_dropWhile {c : Char} (first : c ∈ (cs.dropWhile p).head?) : p c = false := by
  have stopped := List.head?_dropWhile_not p cs
  rw [Option.mem_def.mp first] at stopped
  exact stopped

theorem dropWhile_eq_self (front : ∀ c ∈ cs.head?, p c = false) : cs.dropWhile p = cs := by
  cases cs with
  | nil => rfl
  | cons c rest =>
    have stops : ¬ p c = true := by rw [front c rfl]; decide
    rw [List.dropWhile_cons_of_neg stops]

/-- What is left of a text starts with a character that stays if only others that go stand in front
of it. -/
theorem dropWhile_eq_cons_iff {c : Char} {rest : List Char} (stays : p c = false) :
    cs.dropWhile p = c :: rest ↔ ∃ gone, (∀ d ∈ gone, p d = true) ∧ cs = gone ++ c :: rest := by
  constructor
  · intro left
    refine ⟨cs.takeWhile p, fun d => List.mem_takeWhile_imp, ?_⟩
    rw [← left, List.takeWhile_append_dropWhile]
  · rintro ⟨gone, goes, rfl⟩
    have stops : ¬ p c = true := by rw [stays]; decide
    rw [List.dropWhile_append_of_pos goes, List.dropWhile_cons_of_neg stops]

theorem getLast?_dropEndWhile {c : Char} (last : c ∈ (dropEndWhile p cs).getLast?) :
    p c = false := by
  rw [dropEndWhile, List.getLast?_reverse] at last
  exact head?_dropWhile last

theorem dropEndWhile_eq_self (back : ∀ c ∈ cs.getLast?, p c = false) : dropEndWhile p cs = cs := by
  rw [← List.head?_reverse] at back
  rw [dropEndWhile, dropWhile_eq_self back, List.reverse_reverse]

theorem dropEndWhile_concat (p : Char → Bool) (cs : List Char) (c : Char) :
    dropEndWhile p (cs ++ [c]) = if p c then dropEndWhile p cs else cs ++ [c] :=
  List.rdropWhile_concat p cs c

/-- A character that is not dropped stays in front of what is left. -/
theorem dropEndWhile_cons {c : Char} (stays : p c = false) (cs : List Char) :
    dropEndWhile p (c :: cs) = c :: dropEndWhile p cs := by
  induction cs using List.reverseRecOn with
  | nil => exact dropEndWhile_eq_self fun d last => Option.some.inj last ▸ stays
  | append_singleton front d ih =>
    rw [← List.cons_append, dropEndWhile_concat, dropEndWhile_concat, ih]
    split <;> rfl

/-- Nothing is dropped in front of a character that is not. -/
theorem dropEndWhile_append_cons {c : Char} (stays : p c = false) (front rest : List Char) :
    dropEndWhile p (front ++ c :: rest) = front ++ c :: dropEndWhile p rest := by
  induction rest using List.reverseRecOn with
  | nil =>
    have ends : dropEndWhile p [] = [] := rfl
    rw [dropEndWhile_concat, if_neg (by simpa using stays), ends]
  | append_singleton rest d ih =>
    rw [← List.cons_append, ← List.append_assoc, dropEndWhile_concat, dropEndWhile_concat, ih]
    split <;> simp

/-- As many characters as there are at the end are dropped. -/
theorem dropEndWhile_replicate {c : Char} (goes : p c = true) (cs : List Char) (count : Nat) :
    dropEndWhile p (cs ++ List.replicate count c) = dropEndWhile p cs := by
  induction count with
  | zero => rw [List.replicate_zero, List.append_nil]
  | succ count ih =>
    rw [List.replicate_succ', ← List.append_assoc, dropEndWhile_concat, if_pos goes, ih]

/-- What is dropped at the end is of the kind that is dropped there. -/
theorem exists_dropEndWhile_append (p : Char → Bool) (cs : List Char) :
    ∃ dropped, cs = dropEndWhile p cs ++ dropped ∧ ∀ c ∈ dropped, p c = true :=
  ⟨cs.rtakeWhile p, (List.rdropWhile_append_rtakeWhile).symm, fun _ => List.mem_rtakeWhile_imp⟩

theorem head?_dropEndWhile {c : Char} (first : c ∈ (dropEndWhile p cs).head?) : c ∈ cs.head? := by
  obtain ⟨dropped, split, -⟩ := exists_dropEndWhile_append p cs
  rw [Option.mem_def] at first ⊢
  rw [split, List.head?_append, first, Option.some_or]

/-- Dropping at the end of a text with more behind it. -/
theorem dropEndWhile_append (p : Char → Bool) (front back : List Char) :
    ∃ behind, dropEndWhile p (front ++ back) = dropEndWhile p front ++ behind ∧
      ∀ c ∈ behind, p c = true ∨ c ∈ back := by
  rw [dropEndWhile, List.reverse_append, List.dropWhile_append]
  split
  · exact ⟨[], (List.append_nil _).symm, fun _ member => absurd member List.not_mem_nil⟩
  · obtain ⟨dropped, split, ofKind⟩ := exists_dropEndWhile_append p front
    refine ⟨dropped ++ dropEndWhile p back, ?_, fun c member => ?_⟩
    · rw [← List.append_assoc, ← split, List.reverse_append, List.reverse_reverse]
      rfl
    · rcases List.mem_append.mp member with isDropped | isBack
      · exact .inl (ofKind c isDropped)
      · exact .inr (List.rdropWhile_prefix p back |>.subset isBack)

/-! ## Both ends -/

/-- **Trimming leaves a text as it is if neither end is of the kind that is dropped.** -/
theorem dropBothWhile_eq_self (front : ∀ c ∈ cs.head?, p c = false)
    (back : ∀ c ∈ cs.getLast?, p c = false) : dropBothWhile p cs = cs := by
  rw [dropBothWhile, dropWhile_eq_self front, dropEndWhile_eq_self back]

theorem head?_dropBothWhile {c : Char} (first : c ∈ (dropBothWhile p cs).head?) : p c = false :=
  head?_dropWhile (head?_dropEndWhile first)

theorem dropBothWhile_idem (p : Char → Bool) (cs : List Char) :
    dropBothWhile p (dropBothWhile p cs) = dropBothWhile p cs :=
  dropBothWhile_eq_self (fun _ => head?_dropBothWhile) fun _ => getLast?_dropEndWhile

/-- Trimming a text with more behind it. -/
theorem dropBothWhile_append (p : Char → Bool) (front back : List Char) :
    ∃ behind, dropBothWhile p (front ++ back) = dropBothWhile p front ++ behind ∧
      ∀ c ∈ behind, p c = true ∨ c ∈ back := by
  rw [dropBothWhile, List.dropWhile_append]
  split
  · next nothing =>
    have empty : dropBothWhile p front = [] := by
      rw [dropBothWhile, List.isEmpty_iff.mp nothing]
      rfl
    refine ⟨dropBothWhile p back, by rw [empty]; rfl, fun c member => .inr ?_⟩
    exact (List.dropWhile_suffix p).subset ((List.rdropWhile_prefix p _).subset member)
  · exact dropEndWhile_append p (front.dropWhile p) back

/-- **What is taken off at the end, first of one kind and then of another, is of these kinds.** -/
theorem exists_padding {q : Char → Bool} (front : ∀ c ∈ cs.head?, p c = false) :
    ∃ padding, cs = dropBothWhile p (dropEndWhile q cs) ++ padding ∧
      ∀ c ∈ padding, p c = true ∨ q c = true := by
  obtain ⟨outer, outerSplit, ofOuter⟩ := exists_dropEndWhile_append q cs
  obtain ⟨inner, innerSplit, ofInner⟩ := exists_dropEndWhile_append p (dropEndWhile q cs)
  have stays : (dropEndWhile q cs).dropWhile p = dropEndWhile q cs :=
    dropWhile_eq_self fun c first => front c (head?_dropEndWhile first)
  refine ⟨inner ++ outer, ?_, fun c member => ?_⟩
  · rw [dropBothWhile, stays, ← List.append_assoc, ← innerSplit, ← outerSplit]
  · rcases List.mem_append.mp member with isInner | isOuter
    · exact .inl (ofInner c isInner)
    · exact .inr (ofOuter c isOuter)

end Ends

/-! ## Texts -/

section Texts

variable {s : String}

@[simp] theorem toList_trim : (trim s).toList = dropBothWhile isBlank s.toList :=
  String.toList_ofList

@[simp] theorem toList_trimEndOf {c : Char} :
    (trimEndOf c s).toList = dropEndWhile (· == c) s.toList :=
  String.toList_ofList

theorem trim_eq_self (front : ∀ c ∈ s.toList.head?, isBlank c = false)
    (back : ∀ c ∈ s.toList.getLast?, isBlank c = false) : trim s = s := by
  rw [trim, dropBothWhile_eq_self front back, String.ofList_toList]

theorem trimOf_idem (c : Char) (s : String) : trimOf c (trimOf c s) = trimOf c s := by
  rw [trimOf, trimOf, String.toList_ofList, dropBothWhile_idem]

theorem trimEndOf_idem (c : Char) (s : String) : trimEndOf c (trimEndOf c s) = trimEndOf c s := by
  rw [trimEndOf, toList_trimEndOf, dropEndWhile_eq_self fun _ => getLast?_dropEndWhile]
  rfl

end Texts

end Docsite.Text
