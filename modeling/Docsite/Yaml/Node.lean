/-
**Nodes.**

The values of a YAML text: scalars, lists, maps, and references to nodes that carry an anchor. A
reference is kept as it is, so a node may refer to itself.

* `Document.read?`: the only document of a text.
-/

import Docsite.Yaml.Token

namespace Docsite.Yaml

/-! ## Nodes -/

/-- A value of a text. -/
inductive Node where
  | scalar (anchor : Option Nat) (tag : Option (List Char)) (style : Style) (text : String)
  | list (anchor : Option Nat) (items : List Node)
  | map (anchor : Option Nat) (members : List (Node × Node))
  /-- Stands for the node with this anchor. -/
  | reference (anchor : Nat)
  deriving Repr, Inhabited

namespace Node

/-- The scalar that stands where a value is left out. -/
def empty : Node :=
  .scalar none none .plain ""

/-- Every node in a node that has an anchor, with its anchor; a node comes before those in it. -/
def anchored : Node → List (Nat × Node)
  | .scalar anchor tag style text => anchor.toList.map (·, .scalar anchor tag style text)
  | .list anchor items => anchor.toList.map (·, .list anchor items) ++ ofItems items
  | .map anchor members => anchor.toList.map (·, .map anchor members) ++ ofMembers members
  | .reference _ => []
where
  /-- The nodes with an anchor in the items of a list. -/
  ofItems : List Node → List (Nat × Node)
  | [] => []
  | item :: rest => anchored item ++ ofItems rest
  /-- The nodes with an anchor in the members of a map. -/
  ofMembers : List (Node × Node) → List (Nat × Node)
  | [] => []
  | (key, value) :: rest => anchored key ++ (anchored value ++ ofMembers rest)

end Node

/-- A text that holds one value. -/
structure Document where
  root : Node
  deriving Repr

namespace Document

/-- The node that a node stands for. If an anchor was given twice the last node counts. -/
def resolve (document : Document) (node : Node) : Node :=
  match node with
  | .reference anchor =>
    ((document.root.anchored.reverse.find? (·.1 == anchor)).map Prod.snd).getD .empty
  | _ => node

/-! ## Reading nodes -/

/-- Where reading stands. -/
structure State where
  tokens : List Token
  /-- What the handles of tags stand for, the first entry of a handle counting. -/
  handles : List (List Char × List Char) := []
  /-- The anchors that may be referred to, by name, the last one given first. -/
  anchors : List (List Char × Nat) := []

namespace State

/-- The next token. -/
def next? (state : State) : Option Token :=
  state.tokens.head?

/-- Reads on behind the next token. -/
def skip (state : State) : State :=
  { state with tokens := state.tokens.drop 1 }

/-- Whether the next token is one of several. -/
def sees (state : State) (tokens : List Token) : Bool :=
  match state.next? with
  | some token => tokens.contains token
  | none => false

/-- The next token has to be the given one. -/
def expect? (state : State) (token : Token) : Option State :=
  if state.sees [token] then some state.skip else none

/-- The number of different anchors given so far. -/
def anchorCount (state : State) : Nat :=
  (state.anchors.map Prod.fst).eraseDups.length

/-- Gives a node an anchor. Its number is the number of different anchors given before. -/
def addAnchor (state : State) (name : List Char) : Nat × State :=
  let number := state.anchorCount
  (number, { state with anchors := (name, number) :: state.anchors })

/-- The full text of a tag. -/
def expandTag? (state : State) (handle suffix : List Char) : Option (List Char) :=
  if handle.isEmpty then some suffix
  else (state.handles.lookup handle).map (· ++ suffix)

end State

/-- What stands before a node. -/
structure Properties where
  anchor : Option (List Char) := none
  tag : Option (List Char × List Char) := none

/-- Whether a node has a property. -/
def Properties.any (properties : Properties) : Bool :=
  properties.anchor.isSome || properties.tag.isSome

/-- Reads an anchor and a tag, in either order. -/
def readProperties (state : State) : Properties × State :=
  match state.next?, state.skip.next? with
  | some (.anchor name), some (.tag handle suffix) =>
    ({ anchor := some name, tag := some (handle, suffix) }, state.skip.skip)
  | some (.tag handle suffix), some (.anchor name) =>
    ({ anchor := some name, tag := some (handle, suffix) }, state.skip.skip)
  | some (.anchor name), _ => ({ anchor := some name }, state.skip)
  | some (.tag handle suffix), _ => ({ tag := some (handle, suffix) }, state.skip)
  | _, _ => ({}, state)

/-- What a node is allowed to be, by where it stands. -/
inductive Position where
  /-- Inside a flow collection. -/
  | flow
  /-- In a block. -/
  | block
  /-- The key or the value of a block, whose list may be indented no deeper. -/
  | member
  deriving DecidableEq, Repr

mutual

/-- Reads a node. In front of a scalar, the tag of a single exclamation mark says nothing. The fuel
of this and the following readers bounds the number of tokens. -/
def readNode (position : Position) : Nat → State → Option (Node × State)
  | 0, _ => none
  | fuel + 1, state =>
    match state.next? with
    | some (.reference name) =>
      (state.anchors.lookup name).map fun anchor => (.reference anchor, state.skip)
    | _ => do
      let (properties, state) := readProperties state
      let tag ← match properties.tag with
        | some (handle, suffix) => (state.expandTag? handle suffix).map some
        | none => some none
      let (anchor, inner) := match properties.anchor with
        | some name =>
          let (number, state) := state.addAnchor name
          (some number, state)
        | none => (none, state)
      match state.next? with
      | some (.scalar style text) =>
        return (.scalar anchor (tag.filter (· != ['!'])) style (String.ofList text), inner.skip)
      | some .flowListStart =>
        let (items, state) ← readFlowList true fuel inner.skip
        return (.list anchor items, state)
      | some .flowMapStart =>
        let (members, state) ← readFlowMap true fuel inner.skip
        return (.map anchor members, state)
      | some .blockListStart =>
        if position == .flow then none
        else
          let (items, state) ← readBlockList fuel inner.skip
          return (.list anchor items, state)
      | some .blockMapStart =>
        if position == .flow then none
        else
          let (members, state) ← readBlockMap fuel inner.skip
          return (.map anchor members, state)
      | _ =>
        if position == .member && state.sees [.blockEntry] then
          let (items, state) ← readLevelList fuel inner
          return (.list anchor items, state)
        else if properties.any then return (.scalar anchor tag .plain "", inner)
        else none

/-- Reads a node unless one of the given tokens is next; then it is left out. -/
def readUnless (position : Position) (ends : List Token) : Nat → State → Option (Node × State)
  | 0, _ => none
  | fuel + 1, state =>
    if state.sees ends then some (.empty, state) else readNode position fuel state

/-- Reads the entries of a list in a block. -/
def readBlockList : Nat → State → Option (List Node × State)
  | 0, _ => none
  | fuel + 1, state =>
    match state.next? with
    | some .blockEntry => do
      let (item, state) ← readUnless .block [.blockEntry, .blockEnd] fuel state.skip
      let (items, state) ← readBlockList fuel state
      return (item :: items, state)
    | some .blockEnd => some ([], state.skip)
    | _ => none

/-- Reads the entries of a list that is indented no deeper than its key. -/
def readLevelList : Nat → State → Option (List Node × State)
  | 0, _ => none
  | fuel + 1, state =>
    match state.next? with
    | some .blockEntry => do
      let (item, state) ← readUnless .block [.blockEntry, .key, .value, .blockEnd] fuel state.skip
      let (items, state) ← readLevelList fuel state
      return (item :: items, state)
    | _ => some ([], state)

/-- Reads the members of a map in a block. -/
def readBlockMap : Nat → State → Option (List (Node × Node) × State)
  | 0, _ => none
  | fuel + 1, state =>
    match state.next? with
    | some .key => do
      let (key, state) ← readUnless .member [.key, .value, .blockEnd] fuel state.skip
      let (value, state) ←
        if state.sees [.value] then readUnless .member [.key, .value, .blockEnd] fuel state.skip
        else some (.empty, state)
      let (members, state) ← readBlockMap fuel state
      return ((key, value) :: members, state)
    | some .blockEnd => some ([], state.skip)
    | _ => none

/-- Reads the entries of a list in brackets. -/
def readFlowList (isFirst : Bool) : Nat → State → Option (List Node × State)
  | 0, _ => none
  | fuel + 1, state =>
    if state.sees [.flowListEnd] then some ([], state.skip)
    else do
      let state ← if isFirst then some state else state.expect? .flowEntry
      if state.sees [.flowListEnd] then return ([], state.skip)
      let (item, state) ←
        if state.sees [.key] then readPair fuel state.skip else readNode .flow fuel state
      let (items, state) ← readFlowList false fuel state
      return (item :: items, state)

/-- Reads a map of one member that stands in a list in brackets. A token that stands in place of its
key is passed over. -/
def readPair : Nat → State → Option (Node × State)
  | 0, _ => none
  | fuel + 1, state => do
    let ends := [Token.flowEntry, .flowListEnd]
    let (key, state) ←
      if state.sees (.value :: ends) then some (Node.empty, state.skip)
      else readNode .flow fuel state
    let (value, state) ←
      if state.sees [.value] then readUnless .flow ends fuel state.skip else some (.empty, state)
    return (.map none [(key, value)], state)

/-- Reads the members of a map in braces. -/
def readFlowMap (isFirst : Bool) : Nat → State → Option (List (Node × Node) × State)
  | 0, _ => none
  | fuel + 1, state =>
    if state.sees [.flowMapEnd] then some ([], state.skip)
    else do
      let state ← if isFirst then some state else state.expect? .flowEntry
      if state.sees [.flowMapEnd] then return ([], state.skip)
      let ends := [Token.flowEntry, .flowMapEnd]
      let (key, value, state) ←
        if state.sees [.key] then do
          let (key, state) ← readUnless .flow (.value :: ends) fuel state.skip
          let (value, state) ←
            if state.sees [.value] then readUnless .flow ends fuel state.skip
            else some (.empty, state)
          pure (key, value, state)
        else do
          let (key, state) ← readNode .flow fuel state
          pure (key, Node.empty, state)
      let (members, state) ← readFlowMap false fuel state
      return ((key, value) :: members, state)

end

/-! ## Reading documents -/

/-- The handles that stand for something in every document. -/
def defaultHandles : List (List Char × List Char) :=
  [("!".toList, "!".toList), ("!!".toList, "tag:yaml.org,2002:".toList)]

/-- Reads the directives of a document. Each handle, and the version, may be given once. -/
def readDirectives? (versioned : Bool) (handles : List (List Char × List Char)) :
    List Token → Option (List (List Char × List Char) × List Token)
  | .version major minor :: rest =>
    if versioned || major != 1 || (minor != 1 && minor != 2) then none
    else readDirectives? true handles rest
  | .handle name expansion :: rest =>
    if (handles.lookup name).isSome then none
    else readDirectives? versioned (handles ++ [(name, expansion)]) rest
  | rest => some (handles ++ defaultHandles, rest)

/-- Whether a token says something about documents. -/
def isDocumentToken (token : Token) : Bool :=
  match token with
  | .version .. | .handle .. | .documentStart | .documentEnd => true
  | _ => false

/-- Reads the value of a document whose start was marked. -/
def readContent? (state : State) : Option (Node × State) :=
  if (state.next?.map isDocumentToken).getD true then some (.empty, state)
  else readNode .block (3 * state.tokens.length) state

/-- Reads a document. An empty text is a document whose value is left out. -/
def ofTokens? (tokens : List Token) : Option Document :=
  match tokens with
  | [] => some { root := .empty }
  | first :: _ => do
    let (handles, rest) ← readDirectives? false [] tokens
    let (root, state) ←
      if isDocumentToken first && first != .documentEnd then
        match rest with
        | .documentStart :: content => readContent? { tokens := content, handles }
        | _ => none
      else readNode .block (3 * tokens.length) { tokens, handles }
    guard (state.tokens.all (· == .documentEnd))
    return { root }

/-- The only document of a text. -/
def read? (source : String) : Option Document := do
  ofTokens? (← Scan.tokens? source.toList)

end Document

end Docsite.Yaml
