import PropertyFilter.Format.Yaml.Tag
import PropertyFilter.Format.Yaml.TokenStream

/-!
# Nodes of a YAML document

The tokens of a document make up one node: a scalar, a sequence or a mapping, with its tag. An alias
stands for the node that its anchor marks; both have the same number, so it can be seen later that
they are one node.

## Main definitions

* `Yaml.Node`: the nodes
* `Yaml.NodeReader`: what is known between two nodes
* `Yaml.readDocument`: the node of a text with one document
-/

namespace PropertyFilter.Yaml

/-- A node of a document. -/
inductive Node where
  | scalar (id : Nat) (tag : Tag) (text : List Char)
  | sequence (id : Nat) (tag : Tag) (items : List Node)
  | mapping (id : Nat) (tag : Tag) (entries : List (Node × Node))
  deriving Repr, Inhabited

namespace Node

/-- The number of a node. -/
def id : Node → Nat
  | scalar id _ _ | sequence id _ _ | mapping id _ _ => id

/-- The tag of a node. -/
def tag : Node → Tag
  | scalar _ tag _ | sequence _ tag _ | mapping _ tag _ => tag

end Node

/-- What is known between two nodes. -/
structure NodeReader where
  tokens : List Token
  /-- The nodes behind the anchors so far; one that is still being read is not known yet. -/
  anchors : List (String × Option Node)
  /-- The beginnings of tags by their handles. -/
  handles : List (String × String)
  /-- The number of the next node. -/
  fresh : Nat

/-- A step that takes tokens. -/
abbrev Reading := StateT NodeReader ReadResult

namespace Reading

/-- The token in front. -/
def peek : Reading Token := do return (← get).tokens.headD (.broken .malformed)

/-- Takes the token in front. -/
def drop : Reading Unit := modify fun r => { r with tokens := r.tokens.tail }

/-- Whether the token in front is one of some kinds. -/
def sees (ts : List Token) : Reading Bool := do return ts.contains (← peek)

/-- Takes the token in front if it is the given one. -/
def takes (t : Token) : Reading Bool := do
  if (← peek) == t then
    drop
    return true
  else return false

/-- The token in front may not stand there. -/
def unexpected {α : Type} : Reading α := do
  match ← peek with
  | .broken e => throw e
  | _ => throw .malformed

/-- Takes the token in front, which has to be the given one. -/
def expect (t : Token) : Reading Unit := do
  if !(← takes t) then unexpected

/-- A new number. -/
def number : Reading Nat :=
  modifyGet fun r => (r.fresh, { r with fresh := r.fresh + 1 })

/-- A scalar without text and tag. -/
def emptyNode : Reading Node := do return .scalar (← number) .null []

/-! ### Properties of a node -/

/-- The full name of a tag as it is written. -/
def fullName (t : TagText) : Reading String := do
  match t.handle with
  | none => return t.suffix
  | some h =>
    match (← get).handles.find? (·.1 == h) with
    | some (_, base) => return base ++ t.suffix
    | none => throw .malformed

/-- An anchor, if there is one. -/
def takeAnchor : Reading (Option String) := do
  match ← peek with
  | .anchor name => do drop; return some name
  | _ => return none

/-- A tag, if there is one. -/
def takeTag : Reading (Option TagText) := do
  match ← peek with
  | .tag t => do drop; return some t
  | _ => return none

/-- The anchor and the tag in front of a node, in either order. -/
def takeProperties : Reading (Option String × Option String) := do
  let (anchor, tag) ← (do
    match ← takeAnchor with
    | some name => return (some name, ← takeTag)
    | none =>
      match ← takeTag with
      | some t => return (← takeAnchor, some t)
      | none => return (none, none) : Reading (Option String × Option TagText))
  match tag with
  | none => return (anchor, none)
  | some t => return (anchor, some (← fullName t))

/-- The tag of a node: the given one, else the one that nodes of its kind have by themselves. The
name `!` counts as no tag. -/
def tagOr (own : Tag) : Option String → Tag
  | none => own
  | some name => if name = "!" then own else Tag.ofName name

/-- The tag that a scalar has by itself. -/
def scalarTag (plain : Bool) (name : Option String) (text : List Char) : Tag :=
  if plain || name == some "!" then Tag.ofPlain text else .text

/-! ### Anchors -/

/-- Notes that the node behind an anchor is being read; a name may be used once. -/
def openAnchor : Option String → Reading Unit
  | none => return ()
  | some name => do
    if (← get).anchors.any (·.1 == name) then throw .malformed
    modify fun r => { r with anchors := (name, none) :: r.anchors }

/-- Notes the node behind an anchor. -/
def closeAnchor (anchor : Option String) (n : Node) : Reading Node := do
  if let some name := anchor then
    modify fun r => { r with
      anchors := r.anchors.map fun a => if a.1 == name then (name, some n) else a }
  return n

/-- The node that an alias stands for; inside the node itself it would make up a cycle. -/
def aliased (name : String) : Reading Node := do
  match (← get).anchors.find? (·.1 == name) with
  | some (_, some n) => return n
  | some (_, none) => throw (.fault .beyond)
  | none => throw .malformed

end Reading

open Reading

/-- Where a node may stand. -/
structure NodePlace where
  /-- Block collections may stand there. -/
  block : Bool
  /-- A sequence may stand there whose entries are not indented. -/
  flatSequence : Bool

/-- Inside a flow collection. -/
def NodePlace.flow : NodePlace := ⟨false, false⟩

/-- An entry of a block sequence, or a whole document. -/
def NodePlace.entry : NodePlace := ⟨true, false⟩

/-- A key or a value of a block mapping. -/
def NodePlace.member : NodePlace := ⟨true, true⟩

mutual

/-- A node. -/
def readNode : (fuel : Nat) → NodePlace → Reading Node
  | 0, _ => throw .malformed
  | fuel + 1, place => do
    if let .alias name := ← peek then
      drop
      return ← aliased name
    let (anchor, tag) ← takeProperties
    openAnchor anchor
    let id ← number
    let n ← (do
      match ← peek with
      | .scalar plain text =>
        drop
        let own := scalarTag (plain && tag.isNone) tag text
        return .scalar id (tagOr own tag) text
      | .flowSequenceStart =>
        drop
        return .sequence id (tagOr .sequence tag) (← readFlowSequence fuel true)
      | .flowMappingStart =>
        drop
        return .mapping id (tagOr .mapping tag) (← readFlowMapping fuel true)
      | .blockEntry =>
        if place.flatSequence then
          return .sequence id (tagOr .sequence tag) (← readFlatSequence fuel)
        else readMissing id anchor tag
      | .blockSequenceStart =>
        if place.block then
          drop
          return .sequence id (tagOr .sequence tag) (← readBlockSequence fuel)
        else readMissing id anchor tag
      | .blockMappingStart =>
        if place.block then
          drop
          return .mapping id (tagOr .mapping tag) (← readBlockMapping fuel)
        else readMissing id anchor tag
      | _ => readMissing id anchor tag : Reading Node)
    closeAnchor anchor n
where
  /-- A node of which only the anchor or the tag is there. -/
  readMissing (id : Nat) (anchor tag : Option String) : Reading Node :=
    if anchor.isSome || tag.isSome then return .scalar id (tagOr .null tag) []
    else unexpected

/-- A node, or an empty one before some tokens. -/
def readNodeBefore : (fuel : Nat) → NodePlace → List Token → Reading Node
  | 0, _, _ => throw .malformed
  | fuel + 1, place, ends => do
    if ← sees ends then emptyNode else readNode fuel place

/-- The entries of a block sequence up to its end. -/
def readBlockSequence : (fuel : Nat) → Reading (List Node)
  | 0 => throw .malformed
  | fuel + 1 => do
    if ← takes .blockEntry then
      let n ← readNodeBefore fuel .entry [.blockEntry, .blockEnd]
      return n :: (← readBlockSequence fuel)
    else
      expect .blockEnd
      return []

/-- The entries of a sequence that is not indented. -/
def readFlatSequence : (fuel : Nat) → Reading (List Node)
  | 0 => throw .malformed
  | fuel + 1 => do
    if ← takes .blockEntry then
      let n ← readNodeBefore fuel .entry [.blockEntry, .key, .value, .blockEnd]
      return n :: (← readFlatSequence fuel)
    else return []

/-- The entries of a block mapping up to its end. -/
def readBlockMapping : (fuel : Nat) → Reading (List (Node × Node))
  | 0 => throw .malformed
  | fuel + 1 => do
    if ← takes .key then
      let k ← readNodeBefore fuel .member [.key, .value, .blockEnd]
      let v ← (do
        if ← takes .value then readNodeBefore fuel .member [.key, .value, .blockEnd]
        else emptyNode)
      return (k, v) :: (← readBlockMapping fuel)
    else
      expect .blockEnd
      return []

/-- The entries of a flow sequence up to its end; a key in it makes a mapping of one entry. -/
def readFlowSequence : (fuel : Nat) → (first : Bool) → Reading (List Node)
  | 0, _ => throw .malformed
  | fuel + 1, first => do
    if ← takes .flowSequenceEnd then return []
    if !first then expect .flowEntry
    if ← takes .flowSequenceEnd then return []
    if ← takes .key then
      let id ← number
      let k ← readNodeBefore fuel .flow [.value, .flowEntry, .flowSequenceEnd]
      let v ← readFlowValue fuel .flowSequenceEnd
      return .mapping id .mapping [(k, v)] :: (← readFlowSequence fuel false)
    else
      let n ← readNode fuel .flow
      return n :: (← readFlowSequence fuel false)

/-- The entries of a flow mapping up to its end; a node without a key indicator has no value. -/
def readFlowMapping : (fuel : Nat) → (first : Bool) → Reading (List (Node × Node))
  | 0, _ => throw .malformed
  | fuel + 1, first => do
    if ← takes .flowMappingEnd then return []
    if !first then expect .flowEntry
    if ← takes .flowMappingEnd then return []
    if ← takes .key then
      let k ← readNodeBefore fuel .flow [.value, .flowEntry, .flowMappingEnd]
      let v ← readFlowValue fuel .flowMappingEnd
      return (k, v) :: (← readFlowMapping fuel false)
    else
      let k ← readNode fuel .flow
      let v ← emptyNode
      return (k, v) :: (← readFlowMapping fuel false)

/-- The value of an entry in a flow collection, empty if it is missing. -/
def readFlowValue : (fuel : Nat) → Token → Reading Node
  | 0, _ => throw .malformed
  | fuel + 1, closing => do
    if ← takes .value then readNodeBefore fuel .flow [.flowEntry, closing] else emptyNode

end

/-! ### Documents -/

/-- The handles that every document knows. -/
def commonHandles : List (String × String) := [("!", "!"), ("!!", commonTags)]

/-- The directives in front of a document: one version at most, and each handle once. -/
def takeDirectives : (fuel : Nat) → (version : Bool) → List (String × String) →
    Reading (List (String × String))
  | 0, _, _ => throw .malformed
  | fuel + 1, version, handles => do
    match ← peek with
    | .directive d =>
      drop
      match d with
      | .version major _ =>
        if version || major != 1 then throw .malformed
        takeDirectives fuel true handles
      | .handle name base =>
        if handles.any (·.1 == name) then throw .malformed
        takeDirectives fuel version (handles ++ [(name, base)])
      | .other => takeDirectives fuel version handles
    | _ => return handles

/-- Skips marks at the end of a document. -/
def skipDocumentEnds : (fuel : Nat) → Reading Unit
  | 0 => return ()
  | fuel + 1 => do
    if ← takes .documentEnd then skipDocumentEnds fuel

/-- What begins a document with a mark of its own. -/
def startsExplicitly : Token → Bool
  | .directive _ | .documentStart | .documentEnd | .streamEnd => true
  | _ => false

/-- A document behind its mark. -/
def readExplicitDocument (fuel : Nat) : Reading Node := do
  let handles ← takeDirectives fuel false []
  expect .documentStart
  modify fun r => { r with handles := handles ++ commonHandles }
  if startsExplicitly (← peek) then emptyNode else readNode fuel .entry

/-- Behind a document only marks of its end may follow. -/
def expectEnd (fuel : Nat) : Reading Unit := do
  skipDocumentEnds fuel
  if !(← takes .streamEnd) then
    let _ ← takeDirectives fuel false []
    unexpected

/-- The only document of a text; none if there is nothing in it. -/
def readOnlyDocument (fuel : Nat) : Reading (Option Node) := do
  match ← peek with
  | .streamEnd => return none
  | .directive _ | .documentStart => do
    let n ← readExplicitDocument fuel
    expectEnd fuel
    return some n
  | _ => do
    let n ← readNode fuel .entry
    expectEnd fuel
    return some n

/-- The node of a text with one document; none if there is nothing in it. -/
def readDocument (cs : List Char) : ReadResult (Option Node) :=
  let ts := tokens cs
  ((readOnlyDocument (4 * ts.length + 8)).run ⟨ts, [], commonHandles, 0⟩).map Prod.fst

end PropertyFilter.Yaml
