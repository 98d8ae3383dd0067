/-
**Tables under construction.**

A table can be defined by a header, by a header of one of its own tables, or by dotted keys, and how
it was defined decides what may still be added to it.

* `Members.addPair?`: adds a value under a dotted key.
* `Members.openTable?`, `Members.openElement?`: what a header adds.
-/

import Docsite.Toml.Value

namespace Docsite.Toml

/-- How a table was defined. -/
inductive Definition where
  /-- By its own header. -/
  | header
  /-- By the header of a table in it. -/
  | implied
  /-- By a dotted key. -/
  | dotted
  deriving DecidableEq, Repr

/-- What a key stands for while a document is read. -/
inductive Item where
  | leaf (value : Value)
  | table (definition : Definition) (members : List (String × Item))
  /-- Tables that each have a header of their own. -/
  | elements (tables : List (List (String × Item)))
  deriving Repr

/-- The members of a table under construction, in the order in which they were defined. -/
abbrev Members := List (String × Item)

namespace Item

/-- The value that an item stands for. -/
def toValue : Item → Value
  | .leaf value => value
  | .table _ members => .table (ofMembers members)
  | .elements tables => .array (ofTables tables)
where
  /-- The values of the members of a table. -/
  ofMembers : List (String × Item) → List (String × Value)
  | [] => []
  | (key, item) :: rest => (key, toValue item) :: ofMembers rest
  /-- The values of tables with headers of their own. -/
  ofTables : List (List (String × Item)) → List Value
  | [] => []
  | members :: rest => .table (ofMembers members) :: ofTables rest

end Item

namespace Members

/-- The members with another item under a key that is there. -/
def replace (members : Members) (key : String) (item : Item) : Members :=
  members.map fun (name, old) => (name, if name == key then item else old)

/-- The members without a key. -/
def erase (members : Members) (key : String) : Members :=
  members.filter fun (name, _) => name != key

/-- Adds a value under a dotted key. Only tables that were defined by dotted keys can be added to;
on the way there, tables without a header of their own and the last of several tables are passed
through. -/
def addPair? (value : Value) : List String → Members → Option Members
  | [], _ => none
  | [key], members =>
    if (members.lookup key).isSome then none else some (members ++ [(key, .leaf value)])
  | key :: rest, members =>
    match members.lookup key with
    | none => (addPair? value rest []).map fun inner => members ++ [(key, .table .dotted inner)]
    | some (.leaf _) | some (.table .header _) => none
    | some (.table definition inner) =>
      if definition == .implied && rest.length ≤ 1 then none
      else (addPair? value rest inner).map fun inner =>
        members.replace key (.table definition inner)
    | some (.elements tables) =>
      if rest.length ≤ 1 then none
      else (addPair? value rest (tables.getLast?.getD [])).map fun inner =>
        members.replace key (.elements (tables.dropLast ++ [inner]))

/-- Changes the table that the keys of a header lead to; tables on the way are implied. Of several
tables the last one is meant. -/
def update? (change : Members → Option Members) : List String → Members → Option Members
  | [], members => change members
  | key :: rest, members =>
    match members.lookup key with
    | none => (update? change rest []).map fun inner => members ++ [(key, .table .implied inner)]
    | some (.leaf _) => none
    | some (.table definition inner) =>
      (update? change rest inner).map fun inner => members.replace key (.table definition inner)
    | some (.elements tables) =>
      (update? change rest (tables.getLast?.getD [])).map fun inner =>
        members.replace key (.elements (tables.dropLast ++ [inner]))

/-- Defines a table by a header. A table that was implied so far moves to the end. -/
def openHere? (key : String) (members : Members) : Option Members :=
  match members.lookup key with
  | none => some (members ++ [(key, .table .header [])])
  | some (.table .implied inner) => some (members.erase key ++ [(key, .table .header inner)])
  | some _ => none

/-- Adds one of several tables by a header. -/
def openElementHere? (key : String) (members : Members) : Option Members :=
  match members.lookup key with
  | none => some (members ++ [(key, .elements [[]])])
  | some (.elements tables) => some (members.replace key (.elements (tables ++ [[]])))
  | some _ => none

/-- Defines the table that the keys of a header lead to. -/
def openTable? (keys : List String) (members : Members) : Option Members := do
  update? (openHere? (← keys.getLast?)) keys.dropLast members

/-- Adds one of several tables that the keys of a header lead to. -/
def openElement? (keys : List String) (members : Members) : Option Members := do
  update? (openElementHere? (← keys.getLast?)) keys.dropLast members

/-- The members as values. -/
def toValue (members : Members) : Value :=
  (Item.table .header members).toValue

end Members

end Docsite.Toml
