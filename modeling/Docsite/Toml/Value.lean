/-
**TOML values.**

Tables keep their members in the order in which they were defined.
-/

namespace Docsite.Toml

/-- A TOML value. -/
inductive Value where
  | string (text : String)
  | boolean (value : Bool)
  | integer (value : Int)
  /-- A number with a fraction or an exponent, as it is written. -/
  | float (spelling : String)
  /-- A date, a time or both, in normal form. -/
  | dateTime (text : String)
  | array (items : List Value)
  | table (members : List (String × Value))
  deriving Repr, Inhabited

end Docsite.Toml
