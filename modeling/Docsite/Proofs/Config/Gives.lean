/-
**What checks give.**

A check gives a value or fails; the notices on the way do not matter to either. These are the laws by
which a check that is put together from others gives what they give.

* `Check.gives_bind`: one check after another.
* `Check.gives_validateItems`: the same check for every item of a list.
* `Check.gives_optional`: a check of what may be missing.
-/

import Docsite.Config.Validate
import Docsite.Proofs.List.Correspondence

namespace Docsite

namespace Check

variable {α β : Type}

/-- A check succeeds with a value. -/
def Gives (check : Check α) (a : α) : Prop :=
  check.run.value = .ok a

instance [DecidableEq α] {check : Check α} {a : α} : Decidable (check.Gives a) :=
  inferInstanceAs (Decidable (check.run.value = .ok a))

@[simp] theorem gives_pure {a b : α} : (pure a : Check α).Gives b ↔ a = b := by
  show (Except.ok a : Except ConfigError α) = .ok b ↔ a = b
  rw [Except.ok.injEq]

@[simp] theorem not_gives_throw {error : ConfigError} {a : α} :
    ¬ (throw error : Check α).Gives a := by
  show ¬ (Except.error error : Except ConfigError α) = .ok a
  intro same
  cases same

@[simp] theorem not_gives_invalid {field : String} {fault : ValueFault} {a : α} :
    ¬ (invalid field fault : Check α).Gives a :=
  not_gives_throw

/-- **One check after another gives what the second one gives for a value of the first.** -/
@[simp] theorem gives_bind {first : Check α} {next : α → Check β} {b : β} :
    (first >>= next).Gives b ↔ ∃ a, first.Gives a ∧ (next a).Gives b := by
  unfold Gives
  rw [ExceptT.run_bind, Logged.value_bind]
  match first.run.value with
  | .ok a =>
    constructor
    · exact fun given => ⟨a, rfl, given⟩
    · rintro ⟨_, ⟨rfl⟩, given⟩
      exact given
  | .error error =>
    constructor
    · intro given
      cases given
    · rintro ⟨_, impossible, _⟩
      cases impossible

@[simp] theorem gives_map {check : Check α} {f : α → β} {b : β} :
    (f <$> check).Gives b ↔ ∃ a, check.Gives a ∧ f a = b := by
  rw [map_eq_pure_bind, gives_bind]
  simp only [gives_pure]

/-- A notice never makes a check fail. -/
@[simp] theorem gives_lift {logged : Logged α} {a : α} :
    Gives (ExceptT.lift logged) a ↔ logged.value = a := by
  show (Except.ok logged.value : Except ConfigError α) = .ok a ↔ logged.value = a
  rw [Except.ok.injEq]

@[simp] theorem gives_giveIf {condition : Bool} {notice : Notice} :
    (giveIf condition notice).Gives () :=
  gives_lift.mpr rfl

/-! ## Lists -/

/-- If a check finds what an item means, whatever its key, the check of a list finds what its items
mean, one after the other. -/
theorem gives_validateItems {list : String} {validateItem : String → α → Check β}
    {means : α → β → Prop}
    (finds : ∀ field item result, (validateItem field item).Gives result ↔ means item result)
    {items : List α} {results : List β} :
    (validateItems list validateItem items).Gives results ↔ List.Forall₂ means items results := by
  suffices fromStart : ∀ start, ((items.zipIdx start).mapM fun (item, i) =>
      validateItem (itemKey list i) item).Gives results ↔ List.Forall₂ means items results from
    fromStart 0
  induction items generalizing results with
  | nil =>
    intro start
    simp only [List.zipIdx_nil, List.mapM_nil, gives_pure, List.forall₂_nil_left_iff]
    exact eq_comm
  | cons item items ih =>
    intro start
    simp only [List.zipIdx_cons, List.mapM_cons, gives_bind, gives_pure, finds, ih]
    rw [List.forall₂_cons_left_iff]
    constructor
    · rintro ⟨result, first, rest, others, rfl⟩
      exact ⟨result, rest, first, others, rfl⟩
    · rintro ⟨result, rest, first, others, rfl⟩
      exact ⟨result, first, rest, others, rfl⟩

/-- If a check finds what a section means, its form for a section that may be missing finds that too. -/
theorem gives_optional {check : α → Check β} {checkOptional : Option α → Check (Option β)}
    {means : α → β → Prop} (finds : ∀ item result, (check item).Gives result ↔ means item result)
    (missing : checkOptional none = pure none)
    (declares : ∀ item, checkOptional (some item) = some <$> check item)
    {item : Option α} {result : Option β} :
    (checkOptional item).Gives result ↔ Option.Rel means item result := by
  cases item with
  | none =>
    rw [missing, gives_pure]
    constructor
    · rintro rfl
      exact .none
    · rintro ⟨⟩
      rfl
  | some item =>
    simp only [declares, gives_map, finds]
    constructor
    · rintro ⟨found, isMeant, rfl⟩
      exact .some isMeant
    · rintro ⟨isMeant⟩
      exact ⟨_, isMeant, rfl⟩

end Check

end Docsite
