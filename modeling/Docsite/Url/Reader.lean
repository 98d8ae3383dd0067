/-
**Reading URLs.**

A text is read as a URL by itself or against a base URL, as a browser does it.

* `read`: control characters and blanks around the text and line breaks inside it do not count.
* `parse`: a text that must be a URL by itself.
* `join`: a text resolved against a base URL.
-/

import Docsite.Url.Host
import Docsite.Url.Segments
import Docsite.Text.Blank

namespace Docsite.Url

/-! ## Scheme and authority -/

/-- Whether a character may follow the first letter of a scheme. -/
def isSchemeChar (c : Char) : Bool :=
  c.isAlphanum || c == '+' || c == '-' || c == '.'

/-- The scheme in front of a text, in lower case, and the text behind its colon. -/
def cutScheme? (input : List Char) : Option (String × List Char) :=
  match input with
  | [] => none
  | first :: _ =>
    match input.dropWhile isSchemeChar with
    | ':' :: rest =>
      if first.isAlpha then
        some (String.ofList ((input.takeWhile isSchemeChar).map Char.toLower), rest)
      else none
    | _ => none

/-- Whether a character ends the authority of a URL. -/
def endsAuthority (kind : SchemeKind) (c : Char) : Bool :=
  isPathSlash kind c || endsPath c

/-- The text behind the last occurrence of a character, and the text before it. -/
def cutLast? (c : Char) (cs : List Char) : Option (List Char × List Char) :=
  let after := (cs.reverse.takeWhile (· != c)).reverse
  if after.length < cs.length then some (cs.take (cs.length - after.length - 1), after) else none

/-- The length of a host at the start of an authority: up to a colon outside brackets. -/
def hostLength : Bool → List Char → Nat
  | _, [] => 0
  | inBrackets, c :: rest =>
    if c == ':' && !inBrackets then 0
    else hostLength (if c == '[' then true else if c == ']' then false else inBrackets) rest + 1

/-- The port that a scheme implies. -/
def impliedPort? (scheme : String) : Option Nat :=
  match scheme with
  | "http" | "ws" => some 80
  | "https" | "wss" => some 443
  | "ftp" => some 21
  | _ => none

/-- The host in an authority whose credentials were taken off. -/
def readHost (kind : SchemeKind) (hasCredentials : Bool) (authority : List Char) :
    Except UrlError (Option Host) :=
  let name := authority.take (hostLength false authority)
  match kind, name, hasCredentials || name.length < authority.length with
  | .other, [], false => .ok none
  | _, [], _ => .error .emptyHost
  | .other, _, _ => (otherHost name).map some
  | _, _, _ => (webHost name).map some

/-- The port that a text behind a colon spells, unless the scheme implies it. It must fit into
sixteen bits. -/
def readPort (scheme : String) (digits : List Char) : Except UrlError (Option Nat) :=
  if digits.isEmpty then .ok none
  else match Text.Numeral.read? 10 digits with
    | none => .error .invalidPortNumber
    | some port =>
      if port > 65535 then .error .invalidPortNumber
      else .ok ((some port).filter (some · != impliedPort? scheme))

/-- A URL whose text is given from behind the two slashes that open its authority. -/
def readAuthority (kind : SchemeKind) (scheme : String) (input : List Char) :
    Except UrlError Url := do
  let authority := input.takeWhile (!endsAuthority kind ·)
  let (credentials, place) := (cutLast? '@' authority).getD ([], authority)
  let isMarkAlone := credentials.isEmpty && place.isEmpty && !authority.isEmpty
  if isMarkAlone && authority.length < input.length then throw .emptyHost
  let host ← readHost kind (!credentials.isEmpty && credentials != [':']) place
  let behind := (place.drop (hostLength false place)).drop 1
  let port ← readPort scheme (behind.takeWhile (· != '\\'))
  let rest := input.drop (authority.length - (behind.dropWhile (· != '\\')).length)
  let path :=
    match kind, rest with
    | .other, [] => .segments []
    | .other, c :: more =>
      if endsPath c then .segments []
      else if c == '/' then readPath kind [] more
      else readPath kind [] rest
    | _, c :: more => if isPathSlash kind c then readPath kind [] more else readPath kind [] rest
    | _, [] => readPath kind [] []
  return { scheme, host, port, path }

/-! ## Files -/

/-- Whether a text opens with a drive letter that is a whole segment. -/
def startsWithDriveLetter (input : List Char) : Bool :=
  isDriveLetter (input.take 2) &&
    match input.drop 2 with
    | [] => true
    | c :: _ => isPathSlash .file c || endsPath c

/-- The first segment of a base path, if it is a drive letter with a colon. -/
def driveOf (base : Option Url) : List Segment :=
  match base.map Url.path with
  | some (.segments (first :: _)) =>
    if isDriveLetter first && first.getLast? == some ':' then [first] else []
  | _ => []

/-- The URL of a file, from behind the scheme. -/
def readFile (base : Option Url) (input : List Char) : Except UrlError Url :=
  let url host path : Url := { scheme := "file", host, path }
  match input with
  | [] => match base with
    | some b => .ok b
    | none => .ok (url none (readPath .file [] []))
  | first :: rest =>
    if isPathSlash .file first then
      match rest with
      | second :: more =>
        if isPathSlash .file second then
          let name := more.takeWhile (!endsAuthority .file ·)
          let behind := more.drop name.length
          if name.isEmpty || isDriveLetter name then .ok (url none (readPath .file [] more))
          else match webHost name with
            | .error e => .error e
            | .ok host =>
              let host := if host == .domain "localhost".toList then none else some host
              match behind with
              | c :: tail =>
                if isPathSlash .file c then .ok (url host (readPath .file [] tail))
                else .ok (url host (readPath .file [] behind))
              | [] => .ok (url host (readPath .file [] []))
        else fromRoot url rest
      | [] => fromRoot url rest
    else match base with
      | none => .ok (url none (readPath .file [] input))
      | some b =>
        if endsPath first then .ok b
        else if startsWithDriveLetter input then .ok (url none (readPath .file [] input))
        else match b.path with
          | .segments list => .ok (url b.host (readPath .file (list.dropLast) input))
          | .text _ => .ok (url b.host (readPath .file [] input))
where
  /-- A path that starts at the root of the base. -/
  fromRoot (url : Option Host → Path → Url) (rest : List Char) : Except UrlError Url :=
    if startsWithDriveLetter rest then .ok (url none (readPath .file [] rest))
    else .ok (url (base.bind Url.host) (readPath .file (driveOf base) rest))

/-! ## References -/

/-- Whether a character counts as a slash where a relative reference begins. -/
def isEitherSlash (c : Char) : Bool :=
  c == '/' || c == '\\'

/-- A text without a scheme, resolved against a base URL with segments. -/
def readRelative (base : Url) (list : List Segment) (input : List Char) : Except UrlError Url :=
  match input with
  | [] => .ok base
  | first :: rest =>
    if endsPath first then .ok base
    else if isEitherSlash first then
      match rest with
      | second :: more =>
        if isEitherSlash second then
          let behind :=
            if first == '/' && second == '/' then more else input.dropWhile isEitherSlash
          readAuthority base.kind base.scheme behind
        else .ok { base with path := readPath base.kind [] rest }
      | [] => .ok { base with path := readPath base.kind [] rest }
    else .ok { base with path := readPath base.kind list.dropLast input }

/-- A text behind a scheme that is not a web scheme. -/
def readOther (scheme : String) (input : List Char) : Except UrlError Url :=
  match input with
  | '/' :: '/' :: rest => readAuthority .other scheme rest
  | '/' :: rest => .ok { scheme, host := none, path := readPath .other [] rest }
  | _ =>
    let text := Text.Percent.encode isPlainAscii (input.takeWhile (!endsPath ·))
    .ok { scheme, host := none, path := .text text }

/-- A text whose scheme was taken off. -/
def readWithScheme (base : Option Url) (scheme : String) (input : List Char) :
    Except UrlError Url :=
  match SchemeKind.of scheme with
  | .file => readFile (base.filter (·.scheme == "file")) input
  | .other => readOther scheme input
  | .web =>
    let slashes := (input.takeWhile isEitherSlash).length
    match base with
    | some b =>
      match b.path with
      | .segments list =>
        if slashes < 2 && b.scheme == scheme then readRelative b list input
        else readAuthority .web scheme (input.drop slashes)
      | .text _ => readAuthority .web scheme (input.drop slashes)
    | none => readAuthority .web scheme (input.drop slashes)

/-- Whether a character does not count at the ends of a URL. -/
def isControlOrSpace (c : Char) : Bool :=
  c.toNat ≤ 0x20

/-- The characters of a text that count when it is read as a URL. -/
def significant (input : List Char) : List Char :=
  (Text.dropBothWhile isControlOrSpace input).filter fun c => !(c == '\t' || c == '\n' || c == '\r')

/-- A text read as a URL, against a base if there is one. -/
def read (base : Option Url) (text : String) : Except UrlError Url :=
  let input := significant text.toList
  match cutScheme? input, base with
  | some (scheme, rest), _ => readWithScheme base scheme rest
  | none, none => .error .relativeWithoutBase
  | none, some b =>
    if input.head? == some '#' then .ok b
    else match b.path with
      | .text _ => .error .baseWithoutSegments
      | .segments list => if b.kind == .file then readFile base input else readRelative b list input

/-- A text that must be a URL by itself. -/
def parse (text : String) : Except UrlError Url :=
  read none text

/-- A text resolved against a base URL. -/
def join (base : Url) (text : String) : Except UrlError Url :=
  read (some base) text

end Docsite.Url
