/-
**When checks fail.**

A check looks at values, one after the other, and fails with the error of the first one that has a fault.
These are the laws by which a check that is put together from others looks at the values of all of them,
in the order in which they are put together.

* `CheckedValue`, `FirstOf`: values that may have a fault, and the error of the first one that has.
* `Check.LooksAt`: the values that a check looks at, in order.
* `Check.LooksAt.bind`, `Check.LooksAt.validateItems`: one check after another, and the same check for
  every item of a list.
-/

import Docsite.Proofs.Config.Gives

namespace Docsite

/-! ## Values with faults -/

/-- What can be wrong with the value of a key. -/
inductive Fault where
  /-- There is none. -/
  | missing
  /-- The value names no policy. -/
  | noPolicy (word : String)
  | invalid (fault : ValueFault)

/-- The error that a fault of a key's value makes a check fail with. -/
def Fault.error (key : String) : Fault → ConfigError
  | .missing => .missingField key
  | .noPolicy word => .unknownPolicy key word
  | .invalid fault => .invalidValue key fault

/-- An error names the key whose value has the fault. -/
theorem Fault.field?_error (key : String) (fault : Fault) : (fault.error key).field? = some key := by
  cases fault <;> rfl

/-- A value that is checked: its key, and the faults that it has. -/
structure CheckedValue where
  key : String
  has : Fault → Prop

/-- A value makes a check fail with an error. -/
def CheckedValue.Raises (value : CheckedValue) (error : ConfigError) : Prop :=
  ∃ fault, value.has fault ∧ error = fault.error value.key

/-- An error is that of the first value in a row that has a fault. -/
inductive FirstOf : List CheckedValue → ConfigError → Prop
  | here {value : CheckedValue} {rest : List CheckedValue} {error : ConfigError} :
      value.Raises error → FirstOf (value :: rest) error
  | later {value : CheckedValue} {rest : List CheckedValue} {error : ConfigError} :
      (∀ other, ¬ value.Raises other) → FirstOf rest error → FirstOf (value :: rest) error

section Rows

variable {value : CheckedValue} {values others : List CheckedValue} {error : ConfigError}

@[simp] theorem not_firstOf_nil : ¬ FirstOf [] error :=
  nofun

@[simp] theorem firstOf_cons :
    FirstOf (value :: values) error ↔
      value.Raises error ∨ (∀ other, ¬ value.Raises other) ∧ FirstOf values error := by
  constructor
  · rintro (here | ⟨clean, later⟩)
    · exact .inl here
    · exact .inr ⟨clean, later⟩
  · rintro (here | ⟨clean, later⟩)
    · exact .here here
    · exact .later clean later

/-- **Of two rows, the second one counts where the first one has no fault.** -/
theorem firstOf_append :
    FirstOf (values ++ others) error ↔
      FirstOf values error ∨ (∀ other, ¬ FirstOf values other) ∧ FirstOf others error := by
  induction values with
  | nil => simp
  | cons value values ih =>
    rw [List.cons_append, firstOf_cons, ih]
    by_cases clean : ∀ other, ¬ value.Raises other
    · simp [clean]
    · obtain ⟨other, here⟩ := not_forall_not.mp clean
      have decided : ¬ ∀ other, ¬ FirstOf (value :: values) other :=
        fun nothing => nothing other (.here here)
      rw [firstOf_cons]
      simp only [clean, decided, false_and, or_false]

/-- Some value of a row has a fault exactly if one of them is the first. -/
theorem exists_firstOf :
    (∃ error, FirstOf values error) ↔ ∃ value ∈ values, ∃ fault, value.has fault := by
  induction values with
  | nil => simp
  | cons value values ih =>
    rw [List.exists_mem_cons_iff, ← ih]
    by_cases here : ∃ fault, value.has fault
    · obtain ⟨fault, has⟩ := here
      exact iff_of_true ⟨_, .here ⟨fault, has, rfl⟩⟩ (.inl ⟨fault, has⟩)
    · have clean : ∀ other, ¬ value.Raises other := fun other ⟨fault, has, _⟩ => here ⟨fault, has⟩
      simp [clean, not_exists.mp here]

/-- The error of a row is that of one of its values. -/
theorem FirstOf.exists_mem (first : FirstOf values error) :
    ∃ value ∈ values, value.Raises error := by
  induction first with
  | here raises => exact ⟨_, List.mem_cons_self, raises⟩
  | later _ _ ih =>
    obtain ⟨value, member, raises⟩ := ih
    exact ⟨value, List.mem_cons_of_mem _ member, raises⟩

/-- No value of a row has a fault. -/
def IsClean (values : List CheckedValue) : Prop :=
  ∀ error, ¬ FirstOf values error

theorem isClean_one (clean : ∀ fault, ¬ value.has fault) : IsClean [value] := by
  intro error first
  obtain ⟨_, member, fault, has, -⟩ := first.exists_mem
  obtain rfl := List.mem_singleton.mp member
  exact clean fault has

/-- **A row without faults may stand anywhere.** -/
theorem IsClean.append_iff (clean : IsClean values) :
    FirstOf (values ++ others) error ↔ FirstOf others error := by
  rw [firstOf_append]
  constructor
  · rintro (first | ⟨-, later⟩)
    · exact absurd first (clean error)
    · exact later
  · exact fun later => .inr ⟨clean, later⟩

theorem IsClean.append_iff_left (clean : IsClean others) :
    FirstOf (values ++ others) error ↔ FirstOf values error := by
  rw [firstOf_append]
  constructor
  · rintro (first | ⟨-, later⟩)
    · exact first
    · exact absurd later (clean error)
  · exact .inl

/-- Two rows can change places if one of them has no fault. -/
theorem firstOf_swap (clean : IsClean values ∨ IsClean others) :
    FirstOf (values ++ others) error ↔ FirstOf (others ++ values) error := by
  rcases clean with clean | clean
  · rw [clean.append_iff, clean.append_iff_left]
  · rw [clean.append_iff, clean.append_iff_left]

end Rows

/-! ## Failing -/

namespace Check

variable {α β : Type} {values others : List CheckedValue} {error : ConfigError}

/-- A check fails with an error. -/
def Fails (check : Check α) (error : ConfigError) : Prop :=
  check.run.value = .error error

instance {check : Check α} [DecidableEq α] : Decidable (check.Fails error) :=
  inferInstanceAs (Decidable (check.run.value = .error error))

/-- A check gives a value exactly if it does not fail. -/
theorem exists_gives_iff {check : Check α} : (∃ a, check.Gives a) ↔ ∀ error, ¬ check.Fails error := by
  unfold Gives Fails
  match check.run.value with
  | .ok a => simp
  | .error error => simp

@[simp] theorem not_fails_pure {a : α} : ¬ (pure a : Check α).Fails error := by
  show ¬ (Except.ok a : Except ConfigError α) = .error error
  exact nofun

@[simp] theorem fails_throw {other : ConfigError} :
    (throw other : Check α).Fails error ↔ error = other := by
  show (Except.error other : Except ConfigError α) = .error error ↔ error = other
  rw [Except.error.injEq, eq_comm]

@[simp] theorem fails_invalid {field : String} {fault : ValueFault} :
    (invalid field fault : Check α).Fails error ↔ error = .invalidValue field fault :=
  fails_throw

/-- **One check after another fails if the first one does, or the second one for what the first one
gives.** -/
@[simp] theorem fails_bind {first : Check α} {next : α → Check β} :
    (first >>= next).Fails error ↔
      first.Fails error ∨ ∃ a, first.Gives a ∧ (next a).Fails error := by
  unfold Fails Gives
  rw [ExceptT.run_bind, Logged.value_bind]
  match first.run.value with
  | .ok a => simp
  | .error other =>
    show (Except.error other : Except ConfigError β) = .error error ↔ _
    simp

/-- A notice never makes a check fail. -/
@[simp] theorem not_fails_giveIf {condition : Bool} {notice : Notice} :
    ¬ (giveIf condition notice).Fails error :=
  exists_gives_iff.mp ⟨(), gives_giveIf⟩ error

/-! ## Looking at values -/

/-- A check looks at values in a row: it fails exactly with the error of the first one with a fault. -/
def LooksAt (values : List CheckedValue) (check : Check α) : Prop :=
  ∀ error, check.Fails error ↔ FirstOf values error

theorem looksAt_pure (a : α) : (pure a : Check α).LooksAt [] :=
  fun _ => iff_of_false not_fails_pure not_firstOf_nil

theorem looksAt_one {check : Check α} {value : CheckedValue}
    (fails : ∀ error, check.Fails error ↔ value.Raises error) : check.LooksAt [value] := by
  intro error
  rw [fails error, firstOf_cons]
  simp

/-- A check that does not fail looks at nothing that has a fault. -/
theorem looksAt_clean {check : Check α} (fine : ∀ error, ¬ check.Fails error)
    (clean : IsClean values) : check.LooksAt values :=
  fun error => iff_of_false (fine error) (clean error)

/-- Values without faults can be looked at before or behind others. -/
theorem LooksAt.append_clean {check : Check α} (looks : check.LooksAt values)
    (clean : IsClean others) : check.LooksAt (values ++ others) := by
  intro error
  rw [clean.append_iff_left, looks error]

theorem LooksAt.clean_append {check : Check α} (looks : check.LooksAt others)
    (clean : IsClean values) : check.LooksAt (values ++ others) := by
  intro error
  rw [clean.append_iff, looks error]

/-- A check that fails because of a fault looks at a value that has no other. -/
theorem looksAt_throw {key : String} {has : Fault → Prop} (fault : Fault)
    (only : ∀ other, has other ↔ other = fault) :
    (throw (fault.error key) : Check α).LooksAt [⟨key, has⟩] := by
  refine looksAt_one fun error => ?_
  rw [fails_throw, CheckedValue.Raises]
  simp only [only, exists_eq_left]

/-- **One check after another looks at the values of the first one and then at those of the second.** -/
theorem LooksAt.bind {first : Check α} {next : α → Check β} (looks : first.LooksAt values)
    (looksNext : ∀ a, first.Gives a → (next a).LooksAt others) :
    (first >>= next).LooksAt (values ++ others) := by
  intro error
  rw [fails_bind, firstOf_append, looks error]
  refine or_congr_right ?_
  have clean : (∀ other, ¬ FirstOf values other) ↔ ∃ a, first.Gives a := by
    rw [exists_gives_iff]
    exact forall_congr' fun other => not_congr (looks other).symm
  rw [clean]
  constructor
  · rintro ⟨a, given, fails⟩
    exact ⟨⟨a, given⟩, (looksNext a given error).mp fails⟩
  · rintro ⟨⟨a, given⟩, found⟩
    exact ⟨a, given, (looksNext a given error).mpr found⟩

/-- What is made of the value of a check has no faults of its own. -/
theorem LooksAt.bind_pure {check : Check α} (looks : check.LooksAt values) (f : α → β) :
    (check >>= fun a => pure (f a)).LooksAt values := by
  rw [← List.append_nil values]
  exact looks.bind fun a _ => looksAt_pure (f a)

theorem LooksAt.map {check : Check α} (looks : check.LooksAt values) (f : α → β) :
    (f <$> check).LooksAt values := by
  rw [map_eq_pure_bind]
  exact looks.bind_pure f

/-- The values of every item of a list, given its key. -/
def listed (list : String) (valuesOf : String → α → List CheckedValue) (items : List α) :
    List CheckedValue :=
  items.zipIdx.flatMap fun (item, i) => valuesOf (itemKey list i) item

/-- **The same check for every item looks at the values of one item after the other.** -/
theorem LooksAt.validateItems {list : String} {validateItem : String → α → Check β}
    {valuesOf : String → α → List CheckedValue} {items : List α}
    (looks : ∀ key, ∀ item ∈ items, (validateItem key item).LooksAt (valuesOf key item)) :
    (validateItems list validateItem items).LooksAt (listed list valuesOf items) := by
  suffices fromStart : ∀ start, ((items.zipIdx start).mapM fun (item, i) =>
      validateItem (itemKey list i) item).LooksAt
        ((items.zipIdx start).flatMap fun (item, i) => valuesOf (itemKey list i) item) from
    fromStart 0
  induction items with
  | nil => exact fun _ => looksAt_pure []
  | cons item items ih =>
    intro start
    have later := ih fun key other member => looks key other (List.mem_cons_of_mem item member)
    rw [List.zipIdx_cons, List.mapM_cons, List.flatMap_cons]
    exact (looks _ item List.mem_cons_self).bind fun result _ =>
      (later (start + 1)).bind_pure (result :: ·)

end Check

end Docsite
