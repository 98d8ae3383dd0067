/-
**Numerals.**

Numbers that are spelled by ASCII digits to a base of at most sixteen, with letters of either case
for the digits from ten on.
-/

namespace Docsite.Text.Numeral

/-- The value of a digit. -/
def digit? (c : Char) : Option Nat :=
  let n := c.toNat
  if 0x30 ≤ n && n ≤ 0x39 then some (n - 0x30)
  else if 0x41 ≤ n && n ≤ 0x46 then some (n - 0x41 + 10)
  else if 0x61 ≤ n && n ≤ 0x66 then some (n - 0x61 + 10)
  else none

/-- Whether a character is a digit to the given base. -/
def isDigit (base : Nat) (c : Char) : Bool :=
  match digit? c with
  | some value => value < base
  | none => false

/-- The number that digits spell; any other character counts as the digit zero. -/
def value (base : Nat) (digits : List Char) : Nat :=
  digits.foldl (fun number c => base * number + (digit? c).getD 0) 0

/-- The number that a text of digits spells; no digits at all spell zero. -/
def read? (base : Nat) (digits : List Char) : Option Nat :=
  if digits.all (isDigit base) then some (value base digits) else none

/-- The character whose number is spelled by hexadecimal digits. -/
def char? (digits : List Char) : Option Char := do
  let number ← read? 16 digits
  if number.isValidChar then some (Char.ofNat number) else none

end Docsite.Text.Numeral
