/-
**JSON values.**

A value as it is read: numbers keep their spelling, objects keep the order of their members and may
name a key twice. A string whose escapes do not spell Unicode text has no text.
-/

namespace Docsite.Json

/-- A JSON value. -/
inductive Value where
  | null
  | bool (value : Bool)
  | number (spelling : String)
  /-- The text is missing where the escapes name half of a surrogate pair. -/
  | string (text : Option String)
  | array (items : List Value)
  | object (members : List (Option String × Value))
  deriving Repr, Inhabited

namespace Value

/-- The value of a text. -/
def ofText (s : String) : Value :=
  .string (some s)

/-- The value of a text that may be missing. -/
def ofOptional (s : Option String) : Value :=
  (s.map ofText).getD .null

/-- The object with the given members. -/
def ofMembers (members : List (String × Value)) : Value :=
  .object (members.map fun (key, value) => (some key, value))

end Value

end Docsite.Json
