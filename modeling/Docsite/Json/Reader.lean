/-
**Reading JSON.**

The grammar of JSON texts: one value with white space around it. Everything is checked, also inside
values that nobody asks for; only escapes that pair up wrongly are left to whoever wants the text.

* `read?`: the value that a whole text spells.
-/

import Docsite.Json.Value
import Docsite.Text.Numeral

namespace Docsite.Json

/-! ## White space -/

/-- White space between the tokens of a JSON text. -/
def isSpace (c : Char) : Bool :=
  c == ' ' || c == '\n' || c == '\t' || c == '\r'

/-- A text without leading white space. -/
def skipSpace (cs : List Char) : List Char :=
  cs.dropWhile isSpace

/-! ## Strings -/

/-- What stands in a string: a character, or a UTF-16 unit that was spelled with digits. -/
inductive StringItem where
  | char (c : Char)
  | unit (value : Nat)
  deriving DecidableEq, Repr

/-- The character that a backslash and a letter stand for. -/
def escaped? (c : Char) : Option Char :=
  match c with
  | '\x22' => some '\x22'
  | '\\' => some '\\'
  | '/' => some '/'
  | 'b' => some '\x08'
  | 'f' => some '\x0c'
  | 'n' => some '\n'
  | 'r' => some '\r'
  | 't' => some '\t'
  | _ => none

/-- The value of four hexadecimal digits. -/
def unitValue? (a b c d : Char) : Option Nat :=
  Text.Numeral.read? 16 [a, b, c, d]

/-- The items of a string, from behind the opening quote, and the text behind the closing one. -/
def stringItems : List Char → Option (List StringItem × List Char)
  | [] => none
  | '\x22' :: rest => some ([], rest)
  | '\\' :: 'u' :: a :: b :: c :: d :: rest => do
    let value ← unitValue? a b c d
    let (items, behind) ← stringItems rest
    return (.unit value :: items, behind)
  | '\\' :: letter :: rest => do
    let c ← escaped? letter
    let (items, behind) ← stringItems rest
    return (.char c :: items, behind)
  | c :: rest => do
    guard (0x20 ≤ c.toNat)
    let (items, behind) ← stringItems rest
    return (.char c :: items, behind)

/-- Whether a UTF-16 unit opens a surrogate pair. -/
def isHighSurrogate (value : Nat) : Bool :=
  0xD800 ≤ value && value ≤ 0xDBFF

/-- Whether a UTF-16 unit closes a surrogate pair. -/
def isLowSurrogate (value : Nat) : Bool :=
  0xDC00 ≤ value && value ≤ 0xDFFF

/-- The text that the items of a string spell. -/
def itemsText? : List StringItem → Option (List Char)
  | [] => some []
  | .char c :: rest => (itemsText? rest).map (c :: ·)
  | .unit high :: .unit low :: rest =>
    if isHighSurrogate high then
      if isLowSurrogate low then
        (itemsText? rest).map (Char.ofNat (0x10000 + (high - 0xD800) * 0x400 + (low - 0xDC00)) :: ·)
      else none
    else if isLowSurrogate high then none
    else (itemsText? (.unit low :: rest)).map (Char.ofNat high :: ·)
  | .unit value :: rest =>
    if isHighSurrogate value || isLowSurrogate value then none
    else (itemsText? rest).map (Char.ofNat value :: ·)

/-- The text of a string, from behind the opening quote, and what stands behind the string. -/
def readString? (cs : List Char) : Option (Option String × List Char) :=
  (stringItems cs).map fun (items, rest) => ((itemsText? items).map String.ofList, rest)

/-! ## Numbers -/

/-- The digits in front of a text, of which there must be one, and the text behind them. -/
def takeDigits? (cs : List Char) : Option (List Char × List Char) :=
  match cs.takeWhile Char.isDigit with
  | [] => none
  | digits => some (digits, cs.drop digits.length)

/-- A fraction in front of a text. -/
def takeFraction? (cs : List Char) : Option (List Char × List Char) :=
  match cs with
  | '.' :: rest => (takeDigits? rest).map fun (digits, behind) => ('.' :: digits, behind)
  | _ => some ([], cs)

/-- An exponent in front of a text. -/
def takeExponent? (cs : List Char) : Option (List Char × List Char) :=
  match cs with
  | e :: rest =>
    if e == 'e' || e == 'E' then
      match rest with
      | sign :: more =>
        if sign == '+' || sign == '-' then
          (takeDigits? more).map fun (digits, behind) => (e :: sign :: digits, behind)
        else (takeDigits? rest).map fun (digits, behind) => (e :: digits, behind)
      | [] => none
    else some ([], cs)
  | [] => some ([], [])

/-- The whole part of a number in front of a text: a single zero, or digits that do not start with
one. -/
def takeWhole? (cs : List Char) : Option (List Char × List Char) :=
  match cs with
  | '0' :: rest => if (rest.head?.map Char.isDigit).getD false then none else some (['0'], rest)
  | _ => takeDigits? cs

/-- A number in front of a text. -/
def readNumber? (cs : List Char) : Option (Value × List Char) := do
  let (sign, rest) := match cs with
    | '-' :: rest => (['-'], rest)
    | _ => ([], cs)
  let (whole, rest) ← takeWhole? rest
  let (fraction, rest) ← takeFraction? rest
  let (exponent, rest) ← takeExponent? rest
  return (.number (String.ofList (sign ++ whole ++ fraction ++ exponent)), rest)

/-! ## Values -/

mutual

/-- A value in front of a text. The fuel bounds the number of tokens left. -/
def readValue? : Nat → List Char → Option (Value × List Char)
  | 0, _ => none
  | fuel + 1, cs =>
    match skipSpace cs with
    | '\x22' :: rest => (readString? rest).map fun (text, behind) => (.string text, behind)
    | '[' :: rest =>
      match skipSpace rest with
      | ']' :: behind => some (.array [], behind)
      | _ => (readItems? fuel rest).map fun (items, behind) => (.array items, behind)
    | '\x7b' :: rest =>
      match skipSpace rest with
      | '\x7d' :: behind => some (.object [], behind)
      | _ => (readMembers? fuel rest).map fun (members, behind) => (.object members, behind)
    | 'n' :: 'u' :: 'l' :: 'l' :: rest => some (.null, rest)
    | 't' :: 'r' :: 'u' :: 'e' :: rest => some (.bool true, rest)
    | 'f' :: 'a' :: 'l' :: 's' :: 'e' :: rest => some (.bool false, rest)
    | other => readNumber? other

/-- The items of an array up to its closing bracket. -/
def readItems? : Nat → List Char → Option (List Value × List Char)
  | 0, _ => none
  | fuel + 1, cs => do
    let (item, rest) ← readValue? fuel cs
    match skipSpace rest with
    | ',' :: more =>
      let (items, behind) ← readItems? fuel more
      return (item :: items, behind)
    | ']' :: behind => return ([item], behind)
    | _ => none

/-- The members of an object up to its closing brace. -/
def readMembers? : Nat → List Char → Option (List (Option String × Value) × List Char)
  | 0, _ => none
  | fuel + 1, cs => do
    match skipSpace cs with
    | '\x22' :: rest =>
      let (key, rest) ← readString? rest
      match skipSpace rest with
      | ':' :: rest =>
        let (value, rest) ← readValue? fuel rest
        match skipSpace rest with
        | ',' :: more =>
          let (members, behind) ← readMembers? fuel more
          return ((key, value) :: members, behind)
        | '\x7d' :: behind => return ([(key, value)], behind)
        | _ => none
      | _ => none
    | _ => none

end

/-- The value that a whole text spells. -/
def read? (source : String) : Option Value := do
  let cs := source.toList
  let (value, rest) ← readValue? (cs.length + 1) cs
  guard (skipSpace rest).isEmpty
  return value

end Docsite.Json
