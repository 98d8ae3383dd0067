/-
**Path segments.**

The path of a URL is read piece by piece: `.` is dropped, `..` removes the segment before it, and
any other piece is percent-encoded and kept. Either dot may also be spelled `%2e`.

* `resolve`: the segments left when the pieces are read after the segments in `start`.
* `shorten`: what `..` does; a drive letter such as `c:` is never removed.
-/

import Docsite.Text.Percent
import Docsite.Url.Basic

namespace Docsite.Url

/-! ## Characters -/

/-- Whether a character separates two pieces of a path. -/
def isPathSlash (kind : SchemeKind) (c : Char) : Bool :=
  c == '/' || (c == '\\' && kind.isSpecial)

/-- Whether a character ends the path of a URL. -/
def endsPath (c : Char) : Bool :=
  c == '?' || c == '#'

/-- Whether a character is written as it is in any part of a URL. -/
def isPlainAscii (c : Char) : Bool :=
  0x20 ≤ c.toNat && c.toNat < 0x7F

/-- Whether a character is written as it is in a path segment. -/
def keepsInPath (c : Char) : Bool :=
  isPlainAscii c && !(c ∈ [' ', '\x22', '<', '>', '\x60', '#', '?', '\x7b', '\x7d'])

/-! ## Pieces -/

/-- The pieces of a path between its slashes. -/
def pathPieces (kind : SchemeKind) : List Char → List (List Char)
  | [] => [[]]
  | c :: rest =>
    if isPathSlash kind c then [] :: pathPieces kind rest
    else match pathPieces kind rest with
      | [] => [[c]]
      | piece :: pieces => (c :: piece) :: pieces

/-- The number of dots in a piece that holds nothing else. -/
def dotCount? : List Char → Option Nat
  | [] => some 0
  | '.' :: rest => (dotCount? rest).map (· + 1)
  | '%' :: '2' :: e :: rest =>
    if e == 'e' || e == 'E' then (dotCount? rest).map (· + 1) else none
  | _ => none

/-- Whether a piece is a letter followed by a colon or a bar. -/
def isDriveLetter : List Char → Bool
  | [letter, mark] => letter.isAlpha && (mark == ':' || mark == '|')
  | _ => false

/-! ## Resolving -/

/-- The segments without the last one, unless that is a drive letter. -/
def shorten (segments : List Segment) : List Segment :=
  if (segments.getLast?.map isDriveLetter).getD false then segments else segments.dropLast

/-- A piece as it is kept: percent-encoded, and with a colon if it is a drive letter that opens the
path of a file. -/
def keptPiece (kind : SchemeKind) (start : List Segment) (piece : List Char) : Segment :=
  if kind == .file && start.isEmpty && isDriveLetter piece then piece.take 1 ++ [':']
  else Text.Percent.encode keepsInPath piece

/-- The segments after a piece that a slash follows. -/
def pushPiece (kind : SchemeKind) (start : List Segment) (piece : List Char) : List Segment :=
  match dotCount? piece with
  | some 1 => start
  | some 2 => shorten start
  | _ => start ++ [keptPiece kind start piece]

/-- The segments after the last piece. -/
def closePiece (kind : SchemeKind) (start : List Segment) (piece : List Char) : List Segment :=
  match dotCount? piece with
  | some 1 => start ++ [[]]
  | some 2 => shorten start ++ [[]]
  | _ => start ++ [keptPiece kind start piece]

/-- The segments left when the pieces are read after the segments in `start`. -/
def resolve (kind : SchemeKind) (start : List Segment) : List (List Char) → List Segment
  | [] => start
  | [last] => closePiece kind start last
  | piece :: more => resolve kind (pushPiece kind start piece) more

/-- The segments of the path of a file: empty ones in front do not count. -/
def trimFileSegments (segments : List Segment) : List Segment :=
  match segments.dropWhile List.isEmpty with
  | [] => [[]]
  | kept => kept

/-- The path read from a text after the segments in `start`. -/
def readPath (kind : SchemeKind) (start : List Segment) (input : List Char) : Path :=
  let segments := resolve kind start (pathPieces kind (input.takeWhile (!endsPath ·)))
  .segments (if kind == .file then trimFileSegments segments else segments)

end Docsite.Url
