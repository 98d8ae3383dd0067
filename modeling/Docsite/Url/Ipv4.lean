/-
**IPv4 addresses.**

A host whose last part is a number is an IPv4 address or an error. Parts may be decimal, octal
(leading `0`) or hexadecimal (leading `0x`), and the last part fills all the bytes that are left.
-/

import Docsite.Text.Cut
import Docsite.Text.Numeral
import Docsite.Url.Basic

namespace Docsite.Url.Ipv4

/-! ## Numbers -/

/-- The value of one part of an address. No digits at all behind `0x` have the value zero. -/
def part? : List Char → Option Nat
  | [] => none
  | '0' :: 'x' :: digits | '0' :: 'X' :: digits => Text.Numeral.read? 16 digits
  | '0' :: d :: digits => Text.Numeral.read? 8 (d :: digits)
  | digits => Text.Numeral.read? 10 digits

/-! ## Addresses -/

/-- The parts of a host, without an empty one at the end. -/
def parts (host : List Char) : List (List Char) :=
  match (Text.splitOn '.' host).reverse with
  | [] :: before@(_ :: _) => before.reverse
  | reversed => reversed.reverse

/-- Whether a host claims to be an address, by its last part being a number. -/
def endsInNumber (host : List Char) : Bool :=
  match (parts host).getLast? with
  | none => false
  | some last => (!last.isEmpty && last.all Char.isDigit) || (part? last).isSome

/-- The address spelled by a host: its last part fills all bytes that the others leave. -/
def address? (host : List Char) : Option Nat := do
  let numbers ← (parts host).mapM part?
  let last ← numbers.getLast?
  let bytes := numbers.dropLast
  let bound := Nat.pow 256 (4 - bytes.length)
  guard (bytes.length ≤ 3 && bytes.all (· ≤ 255) && last < bound)
  return bytes.foldl (fun sum byte => 256 * sum + byte) 0 * bound + last

end Docsite.Url.Ipv4
