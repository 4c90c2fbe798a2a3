import PropertyFilter.Format.Yaml.Node
import PropertyFilter.Format.Yaml.ScalarValue
import PropertyFilter.Value.Entries

/-!
# YAML documents

The value of a document. Where several nodes of a document have no value, the one that is nearest to
the root says why, of those the first one.

## Main definitions

* `Yaml.mergedEntries`: the entries of a mapping with those that are merged into it
* `Yaml.nodeValue`: the value of a node
* `Yaml.read`: the value of a document
-/

namespace PropertyFilter.Yaml

/-- Why a node has no value: the reason and how far below the root it lies. -/
structure NodeFailure where
  depth : Nat
  reason : ReadError
  deriving Repr

/-- The value of a node or the reason why it has none. -/
abbrev NodeResult := Except NodeFailure

/-- A node that does not fit its tag. -/
def misfit {α : Type} (depth : Nat) : NodeResult α := .error ⟨depth, .malformed⟩

/-- All results of a row, or the failure nearest to the root. -/
def gatherResults {α : Type} : List (NodeResult α) → NodeResult (List α)
  | [] => .ok []
  | r :: rs =>
    match r, gatherResults rs with
    | .ok a, .ok as => .ok (a :: as)
    | .ok _, .error f => .error f
    | .error f, .ok _ => .error f
    | .error f, .error g => .error (if g.depth < f.depth then g else f)

/-- The entries of a mapping behind those that are merged into it. A merged value is a mapping or a
sequence of mappings, of which the last one comes first. `fuel` is at least the height of the
nodes. -/
def mergedEntries : (fuel : Nat) → List (Node × Node) → Option (List (Node × Node))
  | 0, _ => none
  | fuel + 1, entries => do
    let own := entries.filter fun e => e.1.tag != .merge
    let merged ← (entries.filter fun e => e.1.tag == .merge).mapM fun e =>
      match e.2 with
      | .mapping _ _ inner => mergedEntries fuel inner
      | .sequence _ _ items => do
        let inners ← items.mapM fun n =>
          match n with
          | .mapping _ _ inner => mergedEntries fuel inner
          | _ => none
        return inners.reverse.flatten
      | .scalar _ _ _ => none
    return merged.flatten ++ own

/-- The text that a node stands for: its own, or that of the value under the key `=`. -/
def nodeText? : (fuel : Nat) → Node → Option (List Char)
  | 0, _ => none
  | _ + 1, .scalar _ _ text => some text
  | fuel + 1, .mapping _ _ entries =>
    match entries.find? fun e => e.1.tag == .value with
    | some e => nodeText? fuel e.2
    | none => none
  | _ + 1, .sequence _ _ _ => none

/-- A key `=` is an ordinary text. -/
def asKey (n : Node) : Node :=
  match n with
  | .scalar id .value text => .scalar id .text text
  | .sequence id .value items => .sequence id .text items
  | .mapping id .value entries => .mapping id .text entries
  | _ => n

/-- The label of the value of a node. -/
def valueLabel (n : Node) : Label := 2 * n.id

/-- The label of the pair that an entry of an ordered mapping becomes. -/
def pairLabel (n : Node) : Label := 2 * n.id + 1

/-- A node with the tag of a scalar. -/
def scalarNodeValue (fuel depth : Nat) (n : Node) : NodeResult Value :=
  match nodeText? fuel n with
  | none => misfit depth
  | some cs =>
    match n.tag, n with
    | .timestamp, .mapping _ _ _ => .error ⟨depth, .fault .unsuitable⟩
    | tag, _ =>
      match scalarValue? (valueLabel n) tag cs with
      | some (.ok v) => .ok v
      | some (.error e) => .error ⟨depth, e⟩
      | none => misfit depth

/-- The key of an entry: collections cannot be keys. -/
def keyResult (depth : Nat) (r : NodeResult Value) : NodeResult Value :=
  match r with
  | .ok v => if v.isHashable then .ok v else misfit depth
  | .error f => if f.depth = depth then .error f else misfit depth

/-- Two results as a pair; if both fail, the failure nearest to the root. -/
def pairResult (a b : NodeResult Value) : NodeResult (Value × Value) :=
  match gatherResults [a, b] with
  | .ok [x, y] => .ok (x, y)
  | .ok _ => .ok (.null, .null)
  | .error f => .error f

/-- The value of a node at some depth. `fuel` is at least the height of the node. -/
def nodeValue : (fuel : Nat) → (depth : Nat) → Node → NodeResult Value
  | 0, depth, _ => misfit depth
  | fuel + 1, depth, n =>
    let label := some (valueLabel n)
    let below := depth + 1
    let entriesOf (inner : List (Node × Node)) : NodeResult (List (Value × Value)) :=
      match mergedEntries (fuel + 1) inner with
      | none => misfit below
      | some entries => (gatherResults (entries.map fun e =>
          match keyResult below (nodeValue fuel below (asKey e.1)) with
          | .ok k => pairResult (.ok k) (nodeValue fuel below e.2)
          | .error f => .error f)).map Entries.ofList
    match n.tag, n with
    | .sequence, .sequence _ _ items =>
      (gatherResults (items.map (nodeValue fuel below))).map (.list label)
    | .mapping, .mapping _ _ entries => (entriesOf entries).map (.mapping label false)
    | .set, .mapping _ _ entries =>
      (entriesOf entries).map fun es => .set label false (es.map Prod.fst)
    | .orderedMap, .sequence _ _ items | .pairs, .sequence _ _ items =>
      (gatherResults (items.map fun item =>
        match item with
        | .mapping _ _ [(k, v)] =>
          (pairResult (nodeValue fuel below k) (nodeValue fuel below v)).map fun p =>
            .tuple (some (pairLabel item)) [p.1, p.2]
        | _ => misfit below)).map (.list label)
    | .sequence, _ | .mapping, _ | .set, _ | .orderedMap, _ | .pairs, _ => misfit below
    | .merge, _ | .value, _ | .unknown, _ => misfit depth
    | _, _ => scalarNodeValue (fuel + 1) depth n

/-- The value of a text with one document; an empty text has the value nothing. -/
def read (cs : List Char) : ReadResult Value := do
  match ← readDocument cs with
  | none => return .null
  | some n => (nodeValue (cs.length + 2) 0 n).mapError NodeFailure.reason

end PropertyFilter.Yaml
