/-
**Domain names.**

The form in which a host name is looked up. Its characters are mapped to their common form, and
every label that is not ASCII is written in Punycode behind `xn--`. A label that is written so
already must spell a text that could have been written so.

* `toAscii?`: the form of a name that is looked up, if it has one.
-/

import Docsite.Text.Compose
import Docsite.Url.Domain.Direction
import Docsite.Url.Domain.Joining
import Docsite.Url.Domain.Mapping
import Docsite.Url.Punycode

namespace Docsite.Url.Domain

/-- Whether an ASCII character may not stand in a domain name. -/
def isForbidden (c : Char) : Bool :=
  c.toNat ≤ 0x20 || c.toNat == 0x7F ||
    c ∈ ['%', '#', '/', ':', '<', '>', '?', '@', '[', '\\', ']', '^', '|']

/-- Whether a text is ASCII. -/
def isAscii (cs : List Char) : Bool :=
  cs.all (·.toNat < 0x80)

/-- What stands in front of a label written in Punycode. -/
def mark : List Char :=
  ['x', 'n', '-', '-']

/-! ## Labels -/

/-- The text that an ASCII label stands for. -/
def unmark? (label : List Char) : Option (List Char) :=
  match Text.dropFront? mark label with
  | none => some label
  | some spelling =>
    match Punycode.decode? spelling with
    | some text => if isAscii text then none else some text
    | none => none

/-- Whether a text that is not ASCII may be a label: it is in its common form, starts neither with a
mark of a letter nor with the mark of Punycode, and its joiners stand between letters that join. -/
def isLabel (text : List Char) : Bool :=
  text.all (fun c => mapChar? c == some [c]) && Text.Compose.normalize text == text &&
    !(text.head?.map isLetterMark).getD false && !mark.isPrefixOf text && joinersFit text

/-- The text of a label in common form, if it may be a label. -/
def label? (label : List Char) : Option (List Char) := do
  let text ← if isAscii label then unmark? label else some label
  if isAscii text || isLabel text then some text else none

/-- A label as it is looked up. -/
def written (text : List Char) : List Char :=
  if isAscii text then text else mark ++ Punycode.encode text

/-! ## Names -/

/-- The common form of a name. -/
def common? (name : List Char) : Option (List Char) :=
  (name.mapM mapChar?).map fun parts => Text.Compose.normalize parts.flatten

/-- The form of a name that is looked up, if it has one. -/
def toAscii? (name : List Char) : Option (List Char) := do
  let labels ← (Text.splitOn '.' (← common? name)).mapM label?
  if (labels.any fun label => label.any fun c => c.toNat < 0x80 && isForbidden c) then none
  else if labels.any hasRightToLeft && !labels.all directionsFit then none
  else some (['.'].intercalate (labels.map written))

end Docsite.Url.Domain
