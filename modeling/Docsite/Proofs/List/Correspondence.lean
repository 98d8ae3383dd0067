/-
**Lists that correspond item by item.**

Lists are read, checked and declared item by item, and what holds between the items is kept for whole
lists, in their order, by `List.Forall₂`; an item that may be missing is a list of one item at most.

* `exists_forall₂`, `exists_of_mem_forall₂`: from items to lists and back.
* `mapM_eq_some_iff`, `forall₂_iff_eq_map`: lists that a function finds.
* `forall₂_again`: results that are items themselves.
-/

import Mathlib.Data.List.Forall2
import Mathlib.Data.List.ReduceOption

namespace Docsite

section Relations

variable {α β γ : Type} {means : α → β → Prop}

/-! ## From items to lists -/

theorem exists_forall₂ {items : List α} :
    (∃ results, List.Forall₂ means items results) ↔ ∀ item ∈ items, ∃ result, means item result := by
  induction items with
  | nil => simp
  | cons item items ih =>
    rw [List.forall_mem_cons, ← ih]
    constructor
    · rintro ⟨_, related⟩
      cases related with
      | cons first others => exact ⟨⟨_, first⟩, _, others⟩
    · rintro ⟨⟨result, first⟩, results, others⟩
      exact ⟨result :: results, .cons first others⟩

theorem exists_rel {item : Option α} :
    (∃ result, Option.Rel means item result) ↔ ∀ a, item = some a → ∃ b, means a b := by
  cases item with
  | none =>
    constructor
    · intro _ _ impossible
      cases impossible
    · exact fun _ => ⟨none, .none⟩
  | some a =>
    constructor
    · rintro ⟨_, related⟩ _ ⟨rfl⟩
      cases related with
      | some isMeant => exact ⟨_, isMeant⟩
    · intro meant
      obtain ⟨b, isMeant⟩ := meant a rfl
      exact ⟨some b, .some isMeant⟩

/-! ## From lists to items -/

theorem exists_of_mem_forall₂ {items : List α} {results : List β}
    (related : List.Forall₂ means items results) {result : β} (member : result ∈ results) :
    ∃ item ∈ items, means item result := by
  induction related with
  | nil => cases member
  | cons first _ ih =>
    rcases List.mem_cons.mp member with rfl | inRest
    · exact ⟨_, List.mem_cons_self, first⟩
    · obtain ⟨item, isItem, meant⟩ := ih inRest
      exact ⟨item, List.mem_cons_of_mem _ isItem, meant⟩

section Again

variable {meansAgain : γ → β → Prop} {declare : β → γ}
  (again : ∀ {a b}, means a b → meansAgain (declare b) b)

include again

/-- Results that mean themselves do so in a list, too. -/
theorem forall₂_again {items : List α} {results : List β}
    (related : List.Forall₂ means items results) :
    List.Forall₂ meansAgain (results.map declare) results := by
  rw [List.forall₂_map_left_iff, List.forall₂_same]
  intro result member
  obtain ⟨item, -, meant⟩ := exists_of_mem_forall₂ related member
  exact again meant

theorem rel_again {item : Option α} {result : Option β} (related : Option.Rel means item result) :
    Option.Rel meansAgain (result.map declare) result := by
  cases related with
  | none => exact .none
  | some isMeant => exact .some (again isMeant)

end Again

end Relations

/-! ## Lists that a function finds -/

section Functions

variable {α β : Type}

/-- Every item of a list is read, one after the other. -/
theorem mapM_eq_some_iff {read : α → Option β} {items : List α} {results : List β} :
    items.mapM read = some results ↔
      List.Forall₂ (fun item result => read item = some result) items results := by
  induction items generalizing results with
  | nil =>
    rw [List.mapM_nil, List.forall₂_nil_left_iff]
    exact Option.some_inj.trans eq_comm
  | cons item items ih =>
    simp only [List.mapM_cons, Option.bind_eq_bind, Option.bind_eq_some_iff, ih,
      List.forall₂_cons_left_iff]
    constructor
    · rintro ⟨result, first, rest, others, same⟩
      exact ⟨result, rest, first, others, (Option.some.inj same).symm⟩
    · rintro ⟨result, rest, first, others, rfl⟩
      exact ⟨result, first, rest, others, rfl⟩

/-- One step after another succeeds if both do. -/
theorem bind_eq_ok_iff {ε : Type} {first : Except ε α} {next : α → Except ε β} {result : β} :
    (first >>= next) = .ok result ↔ ∃ item, first = .ok item ∧ next item = .ok result := by
  cases first with
  | error cause =>
    constructor
    · intro impossible
      cases impossible
    · rintro ⟨item, impossible, -⟩
      cases impossible
  | ok item =>
    constructor
    · exact fun found => ⟨item, rfl, found⟩
    · rintro ⟨other, same, found⟩
      rw [Except.ok.inj same]
      exact found

/-- A computation is refused on the way or at its end. -/
theorem bind_eq_error_iff {ε : Type} {read : Except ε α} {next : α → Except ε β} {cause : ε} :
    (read >>= next) = .error cause ↔
      read = .error cause ∨ ∃ item, read = .ok item ∧ next item = .error cause := by
  cases read with
  | error other => simp [bind, Except.bind]
  | ok item => simp [bind, Except.bind]

/-- Results that a function finds are what the function gives, one after the other. -/
theorem forall₂_iff_eq_map {means : α → β → Prop} {find : α → β}
    (found : ∀ a b, means a b ↔ find a = b) (items : List α) (results : List β) :
    List.Forall₂ means items results ↔ results = items.map find := by
  have same : means = fun a b => find a = b := by
    funext a b
    exact propext (found a b)
  rw [same, ← List.forall₂_map_left_iff (R := (· = ·)), List.forall₂_eq_eq_eq]
  exact eq_comm

theorem reduceOption_map (find : α → Option β) (items : List α) :
    (items.map find).reduceOption = items.filterMap find := by
  rw [List.reduceOption, List.filterMap_map, Function.id_comp]

/-- A function that finds less finds, in order, some of what the other one finds. -/
theorem filterMap_sublist_filterMap {less more : α → Option β}
    (weaker : ∀ a b, less a = some b → more a = some b) (items : List α) :
    (items.filterMap less).Sublist (items.filterMap more) := by
  induction items with
  | nil => exact List.Sublist.slnil
  | cons first rest ih =>
    match found : less first with
    | none =>
      rw [List.filterMap_cons_none found]
      exact ih.trans ((List.sublist_cons_self first rest).filterMap more)
    | some b =>
      rw [List.filterMap_cons_some found, List.filterMap_cons_some (weaker first b found)]
      exact ih.cons_cons b

end Functions

end Docsite
