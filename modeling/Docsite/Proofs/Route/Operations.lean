/-
**A table of routes is a set.**

Whatever is done with a new table, each operation tells what the set of the normal forms tells of the routes
that were put in before. It does not count how a route is spelled, how often it is put in, in which order
the routes come, and what the table is asked in between.

* `apply`, `answers`, `after`: an operation, and operations one after the other.
* `Tells`: what an operation tells, by the routes that were put in before it.
* `Holds.apply`, `holds_after`: the invariant of a table is kept by one operation and by all of them.
* `answers_tell`: what all operations on a new table tell.
-/

import Mathlib.Data.Finset.Card
import Mathlib.Data.List.Sort
import Docsite.Proofs.Route.Membership
import Docsite.Proofs.Text.ByteOrder

namespace Docsite.Route.Table

/-! ## Operations -/

/-- What can be done with a table. -/
inductive Operation where
  | insert (route : String)
  | contains (path : String)
  | size
  | isEmpty
  | list
  deriving DecidableEq, Repr

/-- What an operation tells. -/
inductive Answer where
  | verdict (holds : Bool)
  | count (number : Nat)
  | listing (routes : List String)
  deriving DecidableEq, Repr

/-- An operation on a table: what it tells, and the table that it leaves. -/
def apply (table : Table) : Operation → Answer × Table
  | .insert route => (.verdict (table.insert route).1, (table.insert route).2)
  | .contains path => (.verdict (table.contains path), table)
  | .size => (.count table.size, table)
  | .isEmpty => (.verdict table.isEmpty, table)
  | .list => (.listing table.routes, table)

/-- The table that operations leave which are done one after the other. -/
def after (table : Table) (operations : List Operation) : Table :=
  operations.foldl (fun table operation => (table.apply operation).2) table

/-- What operations tell that are done one after the other. -/
def answers (table : Table) : List Operation → List Answer
  | [] => []
  | operation :: rest => (table.apply operation).1 :: answers (table.apply operation).2 rest

theorem length_answers (table : Table) (operations : List Operation) :
    (answers table operations).length = operations.length := by
  induction operations generalizing table with
  | nil => rfl
  | cons operation rest ih => rw [answers, List.length_cons, List.length_cons, ih]

/-- Later operations tell what they tell of the table that the earlier ones leave. -/
theorem answers_append (table : Table) (before later : List Operation) :
    answers table (before ++ later) = answers table before ++ answers (after table before) later := by
  induction before generalizing table with
  | nil => rfl
  | cons operation rest ih =>
    rw [List.cons_append, answers, answers, ih, List.cons_append]
    rfl

/-! ## What a set of routes tells -/

/-- The route that an operation puts in. -/
def Operation.route? : Operation → Option String
  | .insert route => some route
  | .contains _ | .size | .isEmpty | .list => none

theorem Operation.route?_eq_none_iff {operation : Operation} :
    operation.route? = none ↔ ∀ route, operation ≠ .insert route := by
  cases operation <;> simp [route?]

theorem Operation.eq_insert {operation : Operation} {route : String}
    (inserts : operation.route? = some route) : operation = .insert route := by
  cases operation with
  | insert other => rw [Option.some.inj inserts]
  | contains | size | isEmpty | list => cases inserts

/-- A question leaves the table as it is. -/
theorem apply_query (table : Table) {operation : Operation} (query : operation.route? = none) :
    (table.apply operation).2 = table := by
  cases operation with
  | insert route => cases query
  | contains | size | isEmpty | list => rfl

/-- The routes that operations put in, in their order. -/
def inserted (operations : List Operation) : List String :=
  operations.filterMap Operation.route?

/-- The set of the normal forms of some routes. -/
def forms (routes : List String) : Finset String :=
  (routes.map normalize).toFinset

theorem mem_forms {routes : List String} {form : String} :
    form ∈ forms routes ↔ ∃ route ∈ routes, normalize route = form := by
  rw [forms, List.mem_toFinset, List.mem_map]

/-- What an operation tells of a set of routes, by the routes that were put in before it. -/
inductive Tells (earlier : List String) : Operation → Answer → Prop
  | insert {route : String} {isNew : Bool} :
      (isNew = true ↔ ∀ other ∈ earlier, normalize other ≠ normalize route) →
      Tells earlier (.insert route) (.verdict isNew)
  | contains {path : String} {found : Bool} :
      (found = true ↔ ∃ other ∈ earlier, normalize other = normalize path) →
      Tells earlier (.contains path) (.verdict found)
  | size : Tells earlier .size (.count (forms earlier).card)
  | isEmpty {empty : Bool} : (empty = true ↔ (forms earlier).card = 0) →
      Tells earlier .isEmpty (.verdict empty)
  | list {listed : List String} : listed.toFinset = forms earlier →
      listed.Pairwise (Text.bytes · < Text.bytes ·) → Tells earlier .list (.listing listed)

/-! ## The invariant along operations -/

section Holds

variable {table other : Table} {earlier routes : List String}

theorem Holds.toFinset_eq (holds : Holds table earlier) : table.routes.toFinset = forms earlier := by
  ext form
  rw [List.mem_toFinset, holds.mem_iff, mem_forms]

theorem Holds.size_eq (holds : Holds table earlier) : table.size = (forms earlier).card := by
  rw [← holds.toFinset_eq, List.toFinset_card_of_nodup holds.ascending.nodup, size]

/-- **The order of the routes does not count**: whatever it was, there is one table that holds them. -/
theorem Holds.eq_of_perm (holds : Holds table earlier) (others : Holds other routes)
    (same : earlier.Perm routes) : table = other := by
  have sameRoutes : table.routes = other.routes := by
    refine holds.ascending.eq_of_mem_iff others.ascending fun form => ?_
    simp only [holds.mem_iff, others.mem_iff, same.mem_iff]
  cases table
  cases other
  exact congrArg Table.mk sameRoutes

/-- **An operation keeps the invariant.** -/
theorem Holds.apply (holds : Holds table earlier) (operation : Operation) :
    Holds (table.apply operation).2 (earlier ++ operation.route?.toList) := by
  cases inserts : operation.route? with
  | none =>
    rw [apply_query table inserts, Option.toList_none, List.append_nil]
    exact holds
  | some route =>
    obtain rfl := Operation.eq_insert inserts
    exact holds.insert route

/-- **Operations keep the invariant,** whichever they are and however many. -/
theorem Holds.after (holds : Holds table earlier) (operations : List Operation) :
    Holds (table.after operations) (earlier ++ inserted operations) := by
  -- The routes grow with each step of the induction, so it is one for all tables and what they hold.
  induction operations generalizing table earlier with
  | nil => rwa [← List.append_nil earlier] at holds
  | cons operation rest ih =>
    have split : inserted (operation :: rest) = operation.route?.toList ++ inserted rest := by
      rw [inserted, List.filterMap_cons]
      cases operation.route? <;> rfl
    rw [split, ← List.append_assoc]
    exact ih (holds.apply operation)

/-- **An operation tells what the set tells.** -/
theorem Holds.tells (holds : Holds table earlier) (operation : Operation) :
    Tells earlier operation (table.apply operation).1 := by
  cases operation with
  | insert route =>
    refine .insert ?_
    rw [Table.insert, Bool.not_eq_true', Bool.eq_false_iff, ne_eq, holds.contains_iff]
    simp only [not_exists, not_and, ne_eq]
  | contains path => exact .contains holds.contains_iff
  | size =>
    show Tells earlier .size (.count table.size)
    rw [holds.size_eq]
    exact .size
  | isEmpty =>
    refine .isEmpty ?_
    rw [← holds.size_eq, size, isEmpty, List.isEmpty_iff_length_eq_zero]
  | list =>
    refine .list holds.toFinset_eq (holds.ascending.imp ?_)
    exact Text.bytes_lt_bytes.mpr

end Holds

theorem holds_after (operations : List Operation) :
    Holds (after {} operations) (inserted operations) :=
  holds_nil.after operations

/-! ## Operations on a new table -/

/-- **A table of routes is a set of routes in normal form.** Of any operations on a new table each tells
what the set of normal forms tells of the routes that were put in before it: whether a route is new, whether
a path leads to one, how many there are, whether there are none, and all of them in the order of their
bytes. If the same routes are put in in another order, with any questions in between, everything that comes
later tells the same; and no question changes a table. -/
theorem answers_tell :
    (∀ (before : List Operation) (operation : Operation) (later : List Operation), ∃ answer,
      (answers {} (before ++ operation :: later))[before.length]? = some answer ∧
        Tells (inserted before) operation answer) ∧
    (∀ before others later : List Operation, (inserted before).Perm (inserted others) →
      (answers {} (before ++ later)).drop before.length =
        (answers {} (others ++ later)).drop others.length) ∧
    ∀ (table : Table) (operation : Operation), (∀ route, operation ≠ .insert route) →
      (table.apply operation).2 = table := by
  refine ⟨fun before operation later => ?_, fun before others later same => ?_,
    fun table operation query => ?_⟩
  · refine ⟨((after {} before).apply operation).1, ?_, (holds_after before).tells operation⟩
    rw [answers_append, List.getElem?_append_right (length_answers _ before).le, length_answers,
      Nat.sub_self]
    rfl
  · have sameTable : after {} before = after {} others :=
      (holds_after before).eq_of_perm (holds_after others) same
    rw [answers_append, answers_append, List.drop_left' (length_answers _ before),
      List.drop_left' (length_answers _ others), sameTable]
  · exact table.apply_query (Operation.route?_eq_none_iff.mpr query)

/-- Two routes that are put in in either order and then in other spellings. -/
theorem answers_tell_respelled :
    let before := [.insert "/docs/intro/", .contains "/docs", .insert "/docs/./a b"]
    let others := [.size, .insert "/docs/./a b", .insert "/docs/intro/"]
    let later := [.insert "/docs/x/../intro#setup", .contains "/docs/a%20b?x", .size, .isEmpty, .list]
    (inserted before).Perm (inserted others) ∧
      (answers {} (before ++ later)).drop before.length =
        (answers {} (others ++ later)).drop others.length ∧
      (answers {} (others ++ later)).drop others.length =
        [.verdict false, .verdict true, .count 2, .verdict false,
          .listing ["/docs/a%20b", "/docs/intro"]] ∧
      ((after {} others).apply (.contains "/docs")).2 = after {} others := by
  intro before others later
  have same : (inserted before).Perm (inserted others) := List.Perm.swap _ _ []
  exact ⟨same, answers_tell.2.1 before others later same, by decide +kernel,
    answers_tell.2.2 (after {} others) (.contains "/docs") nofun⟩

end Docsite.Route.Table
