/-
**JSON as a dialect.**

Texts and switches must be strings and booleans, `null` counts as absent where a value may be left
out, and an array may stand for a section if it lists all of its fields in order.
-/

import Docsite.Declaration.Dialect
import Docsite.Json.Value

namespace Docsite.Json

/-- How JSON answers what a declaration asks of a value. -/
def dialect : Dialect Value where
  text?
    | .string text => text
    | _ => none
  flag?
    | .bool value => some value
    | _ => none
  isAbsent?
    | .null => some true
    | _ => some false
  items?
    | .array items => some items
    | _ => none
  form?
    | .object members => some (.named members)
    | .array items => some (.positional items)
    | _ => none
  refusesExtraFields := true

end Docsite.Json
