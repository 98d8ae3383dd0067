/-
**Writing JSON.**

A value is written on one line, or indented by two spaces with one member to a line. Quotes,
backslashes and control characters are escaped; everything else stands as it is.
-/

import Docsite.Json.Value
import Docsite.Text.Cut

namespace Docsite.Json

/-! ## Strings -/

/-- The lower-case hexadecimal digit of a value below sixteen. -/
def lowerHexDigit (n : Nat) : Char :=
  if n < 10 then Char.ofNat (0x30 + n) else Char.ofNat (0x61 + n - 10)

/-- How a character is written inside quotes. -/
def escape (c : Char) : List Char :=
  match c with
  | '\x22' => ['\\', '\x22']
  | '\\' => ['\\', '\\']
  | '\x08' => ['\\', 'b']
  | '\x0c' => ['\\', 'f']
  | '\n' => ['\\', 'n']
  | '\r' => ['\\', 'r']
  | '\t' => ['\\', 't']
  | c =>
    if c.toNat < 0x20 then
      ['\\', 'u', '0', '0', lowerHexDigit (c.toNat / 16), lowerHexDigit (c.toNat % 16)]
    else [c]

/-- A text in quotes. -/
def quote (s : String) : String :=
  String.ofList (['\x22'] ++ s.toList.flatMap escape ++ ['\x22'])

/-! ## Layout -/

/-- The line break and indentation in front of an item at the given depth. -/
def newline (depth : Nat) : String :=
  String.ofList ('\n' :: List.replicate (2 * depth) ' ')

/-- Items between brackets, one to a line. -/
def block (opening closing : String) (depth : Nat) (items : List String) : String :=
  if items.isEmpty then opening ++ closing
  else
    opening ++ newline (depth + 1) ++ Text.joinWith ("," ++ newline (depth + 1)) items ++
      newline depth ++ closing

mutual

/-- A value written with one member to a line, inside brackets at the given depth. -/
def prettyAt (depth : Nat) : Value → String
  | .null => "null"
  | .bool value => if value then "true" else "false"
  | .number spelling => spelling
  | .string text => quote (text.getD "")
  | .array items => block "[" "]" depth (prettyItems depth items)
  | .object members => block "\x7b" "\x7d" depth (prettyMembers depth members)

/-- The items of an array at the given depth. -/
def prettyItems (depth : Nat) : List Value → List String
  | [] => []
  | item :: rest => prettyAt (depth + 1) item :: prettyItems depth rest

/-- The members of an object at the given depth. -/
def prettyMembers (depth : Nat) : List (Option String × Value) → List String
  | [] => []
  | (key, value) :: rest =>
    (quote (key.getD "") ++ ": " ++ prettyAt (depth + 1) value) :: prettyMembers depth rest

end

/-- A value written with one member to a line. -/
def pretty (value : Value) : String :=
  prettyAt 0 value

mutual

/-- A value written on one line without spaces. -/
def compact : Value → String
  | .null => "null"
  | .bool value => if value then "true" else "false"
  | .number spelling => spelling
  | .string text => quote (text.getD "")
  | .array items => "[" ++ Text.joinWith "," (compactItems items) ++ "]"
  | .object members => "\x7b" ++ Text.joinWith "," (compactMembers members) ++ "\x7d"

/-- The items of an array on one line. -/
def compactItems : List Value → List String
  | [] => []
  | item :: rest => compact item :: compactItems rest

/-- The members of an object on one line. -/
def compactMembers : List (Option String × Value) → List String
  | [] => []
  | (key, value) :: rest => (quote (key.getD "") ++ ":" ++ compact value) :: compactMembers rest

end

end Docsite.Json
