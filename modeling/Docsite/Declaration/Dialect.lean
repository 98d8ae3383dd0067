/-
**Dialects.**

A site can be declared in several data formats. A dialect says how one of them answers the few
questions that a declaration asks of a value: which text, switch, list or section it stands for, and
whether it counts as absent.

* `Fields`: the fields of one section, in the order of the file, each with the step of the key path
  that leads to it.
* `Fields.unknownKeys`: the key paths that lead to nothing, in the order of the file.
-/

import Docsite.Text.Cut

namespace Docsite

/-! ## Dialects -/

/-- The form in which a section is written. -/
inductive SectionForm (α : Type) where
  /-- Every field is named; a key that is no text is missing. -/
  | named (members : List (Option String × α))
  /-- The fields follow each other in the order in which they are declared. -/
  | positional (fields : List α)

/-- How a data format answers what a declaration asks of a value. -/
structure Dialect (α : Type) where
  /-- The text that a value stands for. -/
  text? : α → Option String
  /-- The switch that a value stands for. -/
  flag? : α → Option Bool
  /-- Whether a value counts as absent where it may be left out; some values are an error there. -/
  isAbsent? : α → Option Bool
  /-- The list that a value stands for. -/
  items? : α → Option (List α)
  /-- The section that a value stands for. -/
  form? : α → Option (SectionForm α)
  /-- Whether more fields than declared are an error in positional form. -/
  refusesExtraFields : Bool

/-- The way from the top of a file to one of its keys. -/
abbrev KeyPath := List String

/-- A key path as it is shown. -/
def KeyPath.show (path : KeyPath) : String :=
  Text.joinWith "." path

/-- What was read from a value, and the key paths below it that have no meaning. -/
structure Reading (β : Type) where
  value : β
  unknown : List KeyPath := []

/-! ## Fields of a section -/

/-- The keys of a section in the order in which they are declared, each with whether its field may
be left out in positional form. -/
abbrev SectionKeys := List (String × Bool)

/-- A field of a section. -/
structure Field (α : Type) where
  /-- The step of the key path that leads to the field. -/
  step : String
  key : String
  value : α

/-- The fields of a section, in the order of the file. -/
structure Fields (α : Type) where
  keys : SectionKeys
  list : List (Field α)

namespace Fields

variable {α β : Type}

/-- The fields of a section whose fields are named. A key without text, or a declared key that
occurs twice, is an error. -/
def ofNamed? (keys : SectionKeys) (members : List (Option String × α)) : Option (Fields α) := do
  let list ← members.mapM fun (key, value) => key.map fun key => { step := key, key, value }
  guard (keys.all fun (key, _) => (list.filter (·.key == key)).length ≤ 1)
  return { keys, list }

/-- The fields of a section whose fields follow each other. Only fields that may be left out can be
missing at the end. -/
def ofPositional? (refusesExtra : Bool) (keys : SectionKeys) (values : List α) :
    Option (Fields α) := do
  guard ((keys.drop values.length).all (·.2))
  guard (!refusesExtra || values.length ≤ keys.length)
  let list := (keys.zip values).zipIdx.map fun (((key, _), value), i) =>
    { step := toString i, key, value }
  return { keys, list }

/-- The fields of the section that a value stands for. -/
def of? (dialect : Dialect α) (keys : SectionKeys) (value : α) : Option (Fields α) :=
  match dialect.form? value with
  | none => none
  | some (.named members) => ofNamed? keys members
  | some (.positional values) => ofPositional? dialect.refusesExtraFields keys values

/-- The value of a field. -/
def get? (fields : Fields α) (key : String) : Option α :=
  (fields.list.find? (·.key == key)).map Field.value

/-- The value of a field that may be absent. -/
def optional? (fields : Fields α) (dialect : Dialect α) (read : α → Option β) (key : String) :
    Option (Option β) :=
  match fields.get? key with
  | none => some none
  | some value =>
    match dialect.isAbsent? value with
    | none => none
    | some true => some none
    | some false => (read value).map some

/-- The text of a field that may be absent. -/
def text? (fields : Fields α) (dialect : Dialect α) (key : String) : Option (Option String) :=
  fields.optional? dialect dialect.text? key

/-- What is read from a section that stands for `missing` when it is left out. -/
def sectionOr? (fields : Fields α) (missing : β) (read : α → Option (Reading β)) (key : String) :
    Option (Reading β) :=
  match fields.get? key with
  | none => some { value := missing }
  | some value => read value

/-- What is read from a section that may be absent. -/
def section? (fields : Fields α) (dialect : Dialect α) (read : α → Option (Reading β))
    (key : String) : Option (Reading (Option β)) :=
  (fields.optional? dialect read key).map fun
    | none => { value := none }
    | some inner => { value := some inner.value, unknown := inner.unknown.map ("?" :: ·) }

/-- What is read from the items of a list, which is empty when it is left out. -/
def list? (fields : Fields α) (dialect : Dialect α) (read : α → Option (Reading β))
    (key : String) : Option (Reading (List β)) :=
  match fields.get? key with
  | none => some { value := [] }
  | some value => do
    let readings ← (← dialect.items? value).mapM read
    return {
      value := readings.map Reading.value
      unknown := readings.zipIdx.flatMap fun (inner, i) => inner.unknown.map (toString i :: ·) }

/-- The key paths of a section that have no meaning, in the order of the file: the keys that are not
declared, and what `below` gives for the fields that have fields of their own. -/
def unknownKeys (fields : Fields α) (below : List (String × List KeyPath)) : List KeyPath :=
  fields.list.flatMap fun field =>
    match below.lookup field.key with
    | some paths => paths.map (field.step :: ·)
    | none => if (fields.keys.lookup field.key).isSome then [] else [[field.step]]

end Fields

end Docsite
