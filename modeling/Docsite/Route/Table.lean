/-
**The routes of a site.**

A set of routes, each in normal form, listed in the order of their characters.

* `Table.insert`: adds a route and says whether it is new.
* `Table.contains`: whether a path leads to a route, however it is spelled.
-/

import Docsite.Route.Basic

namespace Docsite.Route

/-- A set of routes in normal form, in ascending order. -/
structure Table where
  routes : List String := []
  deriving DecidableEq, Repr, Inhabited

namespace Table

/-- A list in ascending order with one more member, which is added only if it is new. -/
def insertSorted (route : String) : List String → List String
  | [] => [route]
  | first :: rest =>
    if route < first then route :: first :: rest
    else if route = first then first :: rest
    else first :: insertSorted route rest

/-- Whether a path leads to a route of the table. -/
def contains (table : Table) (path : String) : Bool :=
  table.routes.contains (normalize path)

/-- The table with one more route, and whether that route is new. -/
def insert (table : Table) (route : String) : Bool × Table :=
  (!table.contains route, ⟨insertSorted (normalize route) table.routes⟩)

/-- The number of routes. -/
def size (table : Table) : Nat :=
  table.routes.length

/-- Whether the table holds no route. -/
def isEmpty (table : Table) : Bool :=
  table.routes.isEmpty

/-- The table of the given routes. -/
def ofList (routes : List String) : Table :=
  routes.foldl (fun table route => (table.insert route).2) {}

end Table

end Docsite.Route
