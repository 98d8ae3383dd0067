/-
**YAML as a dialect.**

Every scalar can stand for a text as it is written. Only a plain scalar can be a switch, be absent
or stand for an empty section.
-/

import Docsite.Declaration.Dialect
import Docsite.Yaml.Node

namespace Docsite.Yaml

/-- The words that say that there is no value. -/
def isNullWord (text : String) : Bool :=
  text ∈ ["~", "null", "Null", "NULL"]

/-- The switch that a word stands for. -/
def flagOfWord? (text : String) : Option Bool :=
  if text ∈ ["true", "True", "TRUE"] then some true
  else if text ∈ ["false", "False", "FALSE"] then some false
  else none

/-- The tag of scalars without value. -/
def nullTag : List Char :=
  "tag:yaml.org,2002:null".toList

/-- The tag of switches. -/
def flagTag : List Char :=
  "tag:yaml.org,2002:bool".toList

/-- Whether a value counts as absent. With a tag only the tag decides, and it must fit. -/
def isAbsent? : Node → Option Bool
  | .scalar _ tag .plain text =>
    match tag with
    | none => some (text.isEmpty || isNullWord text)
    | some tag =>
      if tag != nullTag then some false else if isNullWord text then some true else none
  | _ => some false

/-- How YAML answers what a declaration asks of a node of a document. -/
def dialect (document : Document) : Dialect Node where
  text? node :=
    match document.resolve node with
    | .scalar _ _ _ text => some text
    | _ => none
  flag? node :=
    match document.resolve node with
    | .scalar _ _ .plain text => flagOfWord? text
    | .scalar _ tag .literal text => if tag == some flagTag then flagOfWord? text else none
    | _ => none
  isAbsent? node := isAbsent? (document.resolve node)
  items? node :=
    match document.resolve node with
    | .list _ items => some items
    | .scalar _ _ .plain "" => some []
    | _ => none
  form? node :=
    match document.resolve node with
    | .map _ members => some (.named (members.map fun (key, value) =>
        (match document.resolve key with
          | .scalar _ _ _ text => some text
          | _ => none, value)))
    | .scalar _ _ .plain "" => some (.named [])
    | _ => none
  refusesExtraFields := false

end Docsite.Yaml
