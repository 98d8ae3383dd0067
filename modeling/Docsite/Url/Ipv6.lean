/-
**IPv6 addresses.**

Eight groups of up to four hexadecimal digits. One run of zero groups may be written `::`, and an
IPv4 address in decimal may stand in place of the last two groups.

* `address?`: the groups of an address.
-/

import Docsite.Text.Cut
import Docsite.Text.Numeral

namespace Docsite.Url.Ipv6

/-! ## Groups -/

/-- The group that hexadecimal digits spell. -/
def group? (digits : List Char) : Option Nat :=
  if 1 ≤ digits.length && digits.length ≤ 4 then Text.Numeral.read? 16 digits else none

/-- The byte that decimal digits spell without a needless zero in front. -/
def byte? (digits : List Char) : Option Nat := do
  guard (digits.length == 1 || digits.head?.any (· != '0'))
  let value ← Text.Numeral.read? 10 digits
  if value ≤ 255 then some value else none

/-- The two groups that an IPv4 address stands for. -/
def quad? (cs : List Char) : Option (List Nat) := do
  match ← (Text.splitOn '.' cs).mapM byte? with
  | [a, b, c, d] => return [256 * a + b, 256 * c + d]
  | _ => none

/-- The groups that are spelled between colons; the last piece may be an IPv4 address. -/
def groups? : List (List Char) → Option (List Nat)
  | [] => some []
  | [last] => if last.contains '.' then quad? last else (group? last).map ([·])
  | piece :: more => do return (← group? piece) :: (← groups? more)

/-! ## Addresses -/

/-- The groups that a text on one side of `::` spells; the IPv4 address has to come last of all. -/
def side? (isLast : Bool) (cs : List Char) : Option (List Nat) :=
  if cs.isEmpty then some []
  else if !isLast && cs.contains '.' then none
  else groups? (Text.splitOn ':' cs)

/-- The groups of the address that a text spells. A `::` stands for at least one group. -/
def address? (cs : List Char) : Option (List Nat) :=
  match Text.cutAt? [':', ':'] cs with
  | some (front, back) => do
    let front ← side? false front
    let back ← side? true back
    guard (front.length + back.length ≤ 7)
    return front ++ List.replicate (8 - (front.length + back.length)) 0 ++ back
  | none => do
    let groups ← groups? (Text.splitOn ':' cs)
    guard (groups.length == 8)
    return groups

end Docsite.Url.Ipv6
