/-
**Routes.**

A route is the path under which a page is served. Every spelling of a route is brought into one
normal form before it is stored or looked up.

* `cutSuffixes`: a link target without its query and fragment.
* `normalize`: the normal form; `.` and `..` are resolved, characters are percent-encoded and the
  slash at the end goes, except the one of the root.
* `resolve`: the route that a link on a page leads to.
-/

import Docsite.Text.Blank
import Docsite.Text.Cut
import Docsite.Url.Reader

namespace Docsite.Route

/-! ## Queries and fragments -/

/-- A link target without its query and fragment. -/
def cutSuffixes (target : String) : String :=
  String.ofList (target.toList.takeWhile (!Url.endsPath ·))

/-! ## Normal form -/

/-- The root of a site, on a host that stands for all hosts. -/
def root : Url :=
  { scheme := "http", host := some (.domain ['x']), path := .segments [[]] }

/-- A path without the slashes at its end, unless it is a single character. -/
def trimSlashes (path : List Char) : List Char :=
  match path with
  | [c] => [c]
  | _ => Text.dropEndWhile (· == '/') path

/-- The normal form of a path, written as characters. -/
def normalChars (path : String) : List Char :=
  trimSlashes <|
    match root.join (cutSuffixes path) with
    | .ok url => url.path.chars
    | .error _ => (cutSuffixes path).toList

/-- The normal form of a path; a text that is no URL is left as it is. -/
def normalize (path : String) : String :=
  String.ofList (normalChars path)

/-! ## Links between pages -/

/-- The route that a link leads to on the page served at `page`. -/
def resolve (page target : String) : String :=
  match (root.join page).bind (·.join (cutSuffixes target)) with
  | .ok url => normalize url.pathText
  | .error _ => normalize target

/-! ## Building routes -/

/-- The route of a path below the base URL and an optional first segment. -/
def below (baseUrl first path : String) : String :=
  let front := if first.isEmpty then baseUrl else baseUrl ++ Text.trimOf '/' first ++ "/"
  normalize (front ++ Text.trimStartOf '/' path)

/-- A site path with the base URL in front, unless it is there already. -/
def withBaseUrl (baseUrl path : String) : String :=
  if Text.startsWith baseUrl path then path
  else if path == Text.trimEndOf '/' baseUrl then baseUrl
  else baseUrl ++ Text.trimStartOf '/' path

end Docsite.Route
