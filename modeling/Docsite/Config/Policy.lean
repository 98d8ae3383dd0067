/-
**Link policies.**

What happens when a link leads nowhere.

* `ofText?`: the policy that a word names, blanks around it aside.
* `ofText?_name`: every policy is named by its own word.
-/

import Docsite.Text.Blank

namespace Docsite

/-- What happens when a link leads nowhere. -/
inductive LinkPolicy where
  /-- The check fails. -/
  | throw
  /-- A warning is given. -/
  | warn
  /-- A message is given. -/
  | log
  /-- Nothing is said. -/
  | ignore
  deriving DecidableEq, Repr, Inhabited

namespace LinkPolicy

/-- Every policy, most severe first. -/
def all : List LinkPolicy :=
  [.throw, .warn, .log, .ignore]

/-- The word that names a policy. -/
def name : LinkPolicy → String
  | .throw => "throw"
  | .warn => "warn"
  | .log => "log"
  | .ignore => "ignore"

/-- Whether a link that leads nowhere makes the check fail. -/
def isFatal : LinkPolicy → Bool
  | .throw => true
  | _ => false

/-- The policy of a word without blanks around it. -/
def ofWord? (word : String) : Option LinkPolicy :=
  all.find? (·.name == word)

/-- The policy that a text names, blanks around it aside. -/
def ofText? (s : String) : Option LinkPolicy :=
  ofWord? (Text.trim s)

/-- Every policy is named by its own word. -/
theorem ofWord?_name (policy : LinkPolicy) : ofWord? policy.name = some policy := by
  cases policy <;> decide

/-- What is said about a text that names no policy. -/
def unknownMessage (s : String) : String :=
  s!"Unknown link policy '{Text.trim s}'"

end LinkPolicy

end Docsite
