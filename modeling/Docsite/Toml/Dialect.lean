/-
**TOML as a dialect.**

Texts and switches must be strings and booleans, nothing counts as absent, and an array may stand
for a section if it lists all of its fields in order.
-/

import Docsite.Declaration.Dialect
import Docsite.Toml.Value

namespace Docsite.Toml

/-- The key of the only member of a date that is taken for a section. -/
def dateKey : String :=
  "$__toml_private_datetime"

/-- How TOML answers what a declaration asks of a value. -/
def dialect : Dialect Value where
  text?
    | .string text => some text
    | _ => none
  flag?
    | .boolean value => some value
    | _ => none
  isAbsent? _ := some false
  items?
    | .array items => some items
    | _ => none
  form?
    | .table members => some (.named (members.map fun (key, value) => (some key, value)))
    | .array items => some (.positional items)
    | .dateTime text => some (.named [(some dateKey, .string text)])
    | _ => none
  refusesExtraFields := false

end Docsite.Toml
