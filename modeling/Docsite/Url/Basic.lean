/-
**URLs.**

A URL as far as this library asks about it: its scheme, its host with the port, and its path. Query,
fragment and credentials are checked when a URL is read and then forgotten.

* `Url.Path`: either a list of segments or, for `mailto:` and its like, a text without structure.
* `UrlError`: why a text is no URL, with the wording of each cause.
-/

namespace Docsite

/-! ## Errors -/

/-- Why a text is no URL. -/
inductive UrlError where
  /-- The text has no scheme and there is nothing to resolve it against. -/
  | relativeWithoutBase
  /-- The text has no scheme and what it is resolved against has a path without segments. -/
  | baseWithoutSegments
  | emptyHost
  | invalidPortNumber
  | invalidIpv4Address
  | invalidIpv6Address
  | invalidInternationalDomainName
  | invalidDomainCharacter
  deriving DecidableEq, Repr

/-- The wording of an error. -/
def UrlError.message : UrlError → String
  | .relativeWithoutBase => "relative URL without a base"
  | .baseWithoutSegments => "relative URL with a cannot-be-a-base base"
  | .emptyHost => "empty host"
  | .invalidPortNumber => "invalid port number"
  | .invalidIpv4Address => "invalid IPv4 address"
  | .invalidIpv6Address => "invalid IPv6 address"
  | .invalidInternationalDomainName => "invalid international domain name"
  | .invalidDomainCharacter => "invalid domain character"

namespace Url

/-! ## Schemes -/

/-- How a scheme's URLs are read. -/
inductive SchemeKind where
  /-- `http` and its like: a host is required and `\` is a slash. -/
  | web
  /-- `file`: the host may be missing and `\` is a slash. -/
  | file
  /-- Any other scheme. -/
  | other
  deriving DecidableEq, Repr

/-- The kind of a scheme that is given in lower case. -/
def SchemeKind.of (scheme : String) : SchemeKind :=
  if scheme ∈ ["http", "https", "ws", "wss", "ftp"] then .web
  else if scheme = "file" then .file
  else .other

/-- Whether a scheme has the reading rules of the web. -/
def SchemeKind.isSpecial : SchemeKind → Bool
  | .web | .file => true
  | .other => false

/-! ## Hosts and paths -/

/-- The host of a URL. -/
inductive Host where
  | domain (name : List Char)
  | ipv4 (address : Nat)
  /-- The eight groups of sixteen bits. -/
  | ipv6 (groups : List Nat)
  deriving DecidableEq, Repr

/-- The text between two slashes of a path. -/
abbrev Segment := List Char

/-- The path of a URL. -/
inductive Path where
  /-- Each segment stands behind a slash. -/
  | segments (list : List Segment)
  /-- A text without segments, against which nothing can be resolved. -/
  | text (chars : List Char)
  deriving DecidableEq, Repr

/-- The characters of a path. -/
def Path.chars : Path → List Char
  | .segments list => list.flatMap ('/' :: ·)
  | .text chars => chars

end Url

/-- The parts of a URL that are kept after reading it. -/
structure Url where
  scheme : String
  host : Option Url.Host
  /-- The port, unless it is missing or the one that the scheme implies. -/
  port : Option Nat := none
  path : Url.Path
  deriving DecidableEq, Repr

namespace Url

/-- The kind of a URL's scheme. -/
def kind (u : Url) : SchemeKind :=
  .of u.scheme

/-- The text of a URL's path. -/
def pathText (u : Url) : String :=
  String.ofList u.path.chars

end Url

end Docsite
