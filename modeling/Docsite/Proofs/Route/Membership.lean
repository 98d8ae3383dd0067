/-
**Which paths lead to a route of a table.**

A table stores normal forms and is asked with normal forms, so a path leads to one of its routes
exactly when it shares its normal form with a route that was put in.

* `Table.Holds`: a table holds the normal forms of some routes, an invariant kept by `Table.insert`.
* `Table.contains_ofList`: membership in the table of a list of routes.
* `Table.mem_ofList`, `Table.pairwise_ofList`: what the table of a list of routes lists.
-/

import Mathlib.Data.String.Basic
import Docsite.Route.Table

namespace Docsite.Route.Table

theorem mem_insertSorted {route other : String} {routes : List String} :
    other ∈ insertSorted route routes ↔ other = route ∨ other ∈ routes := by
  induction routes with
  | nil => simp [insertSorted]
  | cons first rest ih =>
    unfold insertSorted
    split
    · exact List.mem_cons
    · split
      · next same => simp [same]
      · rw [List.mem_cons, ih, List.mem_cons]
        exact or_left_comm

theorem pairwise_insertSorted {route : String} {routes : List String}
    (ascending : routes.Pairwise (· < ·)) : (insertSorted route routes).Pairwise (· < ·) := by
  induction routes with
  | nil => exact List.pairwise_singleton _ route
  | cons first rest ih =>
    obtain ⟨before, others⟩ := List.pairwise_cons.mp ascending
    unfold insertSorted
    split
    · next less =>
      refine List.pairwise_cons.mpr ⟨?_, ascending⟩
      exact List.forall_mem_cons.mpr ⟨less, fun other member => less.trans (before other member)⟩
    · next notLess =>
      split
      · exact ascending
      · next different =>
        refine List.pairwise_cons.mpr ⟨fun other member => ?_, ih others⟩
        rcases mem_insertSorted.mp member with rfl | member
        · exact lt_of_le_of_ne (not_lt.mp notLess) (Ne.symm different)
        · exact before other member

/-- A path leads to a table exactly if its normal form is stored there. -/
theorem contains_iff_mem {table : Table} {path : String} :
    table.contains path = true ↔ normalize path ∈ table.routes := by
  rw [contains, List.contains_iff_mem]

/-- **One more route makes its own normal form reachable, and nothing else.** -/
theorem contains_insert {table : Table} {route path : String} :
    (table.insert route).2.contains path = true ↔
      normalize route = normalize path ∨ table.contains path = true := by
  rw [contains_iff_mem, contains_iff_mem, insert, mem_insertSorted, eq_comm]

/-! ## What a table holds -/

/-- A table holds the normal forms of some routes, each once and in ascending order. -/
structure Holds (table : Table) (earlier : List String) : Prop where
  ascending : table.routes.Pairwise (· < ·)
  mem_iff {form : String} : form ∈ table.routes ↔ ∃ route ∈ earlier, normalize route = form

theorem holds_nil : Holds {} [] :=
  ⟨List.Pairwise.nil, by simp⟩

section Holds

variable {table : Table} {earlier : List String}

theorem Holds.contains_iff (holds : Holds table earlier) {path : String} :
    table.contains path = true ↔ ∃ route ∈ earlier, normalize route = normalize path :=
  contains_iff_mem.trans holds.mem_iff

/-- **One more route joins those that a table holds.** -/
theorem Holds.insert (holds : Holds table earlier) (route : String) :
    Holds (table.insert route).2 (earlier ++ [route]) := by
  refine ⟨pairwise_insertSorted holds.ascending, fun {form} => ?_⟩
  rw [Table.insert, mem_insertSorted, holds.mem_iff, or_comm, eq_comm (a := form)]
  simp only [List.mem_append, List.mem_singleton, or_and_right, exists_or, exists_eq_left]

/-- **Routes that are put in one after the other join those that a table holds.** -/
theorem Holds.foldl_insert (holds : Holds table earlier) (routes : List String) :
    Holds (routes.foldl (fun table route => (table.insert route).2) table) (earlier ++ routes) := by
  induction routes generalizing table earlier with
  | nil => rwa [← List.append_nil earlier] at holds
  | cons first rest ih =>
    rw [List.append_cons]
    exact ih (holds.insert first)

end Holds

/-! ## Tables of given routes -/

theorem holds_ofList (routes : List String) : Holds (ofList routes) routes :=
  holds_nil.foldl_insert routes

/-- **The table of a list lists the normal forms of its members.** -/
theorem mem_ofList {routes : List String} {listed : String} :
    listed ∈ (ofList routes).routes ↔ ∃ route ∈ routes, normalize route = listed :=
  (holds_ofList routes).mem_iff

/-- **The table of a list holds the normal forms of its members.** -/
theorem contains_ofList {routes : List String} {path : String} :
    (ofList routes).contains path = true ↔ ∃ route ∈ routes, normalize route = normalize path :=
  (holds_ofList routes).contains_iff

/-- **The routes of a table are listed in strictly ascending order.** -/
theorem pairwise_ofList (routes : List String) : (ofList routes).routes.Pairwise (· < ·) :=
  (holds_ofList routes).ascending

end Docsite.Route.Table
