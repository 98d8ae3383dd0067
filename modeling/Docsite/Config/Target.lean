/-
**Link targets.**

* `isExternal`: a target leaves the site if it starts with `//` or names a scheme.
* `LinkTarget.internalPath?`: the path that must be served by the site itself.
-/

import Docsite.Json.Value

namespace Docsite

/-- Whether a character may follow the first letter of a scheme. -/
def isSchemeChar (c : Char) : Bool :=
  c.isAlphanum || c == '+' || c == '.' || c == '-'

/-- Whether a text starts with a scheme and a colon. -/
def hasScheme : List Char → Bool
  | [] => false
  | first :: rest => first.isAlpha && (rest.dropWhile isSchemeChar).head? == some ':'

/-- Whether a link target points outside the site. -/
def isExternal (target : String) : Bool :=
  ['/', '/'].isPrefixOf target.toList || hasScheme target.toList

/-- Where an entry of the navigation points. -/
inductive LinkTarget where
  /-- A path of the site, which must be served, unless it is external. -/
  | path (target : String)
  /-- A target that is passed on untouched. -/
  | href (target : String)
  deriving DecidableEq, Repr

namespace LinkTarget

/-- The target as it was declared. -/
def text : LinkTarget → String
  | .path target => target
  | .href target => target

/-- The path that must be served by the site itself. -/
def internalPath? : LinkTarget → Option String
  | .path target => if isExternal target then none else some target
  | .href _ => none

/-- The member that declares the target. -/
def member : LinkTarget → String × Json.Value
  | .path target => ("to", .ofText target)
  | .href target => ("href", .ofText target)

end LinkTarget

end Docsite
