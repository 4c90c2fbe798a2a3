import PropertyFilter.Filter.OutputFilters

/-!
# Stores of named things

A store holds values, name filters and pairs of filters under names. Collections that carry a
label are shared: when one is changed, every occurrence of its label in the store changes with it,
also inside other values and inside the rows of names of a filter.

## Main definitions

* `Item`, `Store`: what a store holds, and stores
* `Value.update`: gives every occurrence of a label a new content
* `Store.bind`: names a thing
* `Store.append`, `Store.put`: change a shared collection
-/

namespace PropertyFilter

namespace Value

mutual

/-- The value with `new` in place of every collection with the label. -/
def update (l : Label) (new : Value) : Value → Value
  | list label items => if label = some l then new else list label (updateItems l new items)
  | tuple label items => if label = some l then new else tuple label (updateItems l new items)
  | set label frozen items =>
    if label = some l then new else set label frozen (updateItems l new items)
  | mapping label view entries =>
    if label = some l then new else mapping label view (updateEntries l new entries)
  | v => v

/-- The values of a row with `new` in place of every collection with the label. -/
def updateItems (l : Label) (new : Value) : List Value → List Value
  | [] => []
  | v :: vs => update l new v :: updateItems l new vs

/-- The entries with `new` in place of every collection with the label. -/
def updateEntries (l : Label) (new : Value) : List (Value × Value) → List (Value × Value)
  | [] => []
  | (k, v) :: es => (update l new k, update l new v) :: updateEntries l new es

end

@[simp] theorem update_text (l : Label) (new : Value) (s : String) :
    update l new (text s) = text s := by simp [update]

@[simp] theorem updateItems_nil (l : Label) (new : Value) : updateItems l new [] = [] := by
  simp [updateItems]

end Value

/-- A filter in which every collection with the label has the new content. -/
def NameFilter.update (l : Label) (new : Value) (f : NameFilter) : NameFilter :=
  ⟨Value.updateItems l new f.globalNames,
    f.namesByType.map fun e => (e.1, Value.updateItems l new e.2)⟩

/-- What a store holds under a name. -/
inductive Item where
  | value (v : Value)
  | filter (f : NameFilter)
  | filters (c : OutputFilters)
  deriving Repr, Inhabited

/-- An item in which every collection with the label has the new content. -/
def Item.update (l : Label) (new : Value) : Item → Item
  | value v => value (Value.update l new v)
  | filter f => filter (f.update l new)
  | filters c => filters ⟨c.excludes.update l new, c.includes.update l new⟩

/-- Things under names, and the number of labels given out. -/
structure Store where
  items : List (String × Item)
  labels : Nat
  deriving Repr, Inhabited

namespace Store

/-- Nothing under any name. -/
def empty : Store := ⟨[], 0⟩

/-- The thing under a name. -/
def find? (s : Store) (name : String) : Option Item :=
  (s.items.find? fun e => e.1 == name).map Prod.snd

/-- The value under a name. -/
def value? (s : Store) (name : String) : Option Value :=
  match s.find? name with
  | some (.value v) => some v
  | _ => none

/-- Puts a thing under a name, in place of the one that was there. -/
def bind (s : Store) (name : String) (item : Item) : Store :=
  { s with items := (name, item) :: s.items }

/-- Puts a value under a name; from now on it is shared by everything that mentions the name. -/
def define (s : Store) (name : String) (v : Value) : Store :=
  { items := (name, .value (v.withLabel s.labels)) :: s.items, labels := s.labels + 1 }

/-- Gives every occurrence of a label a new content. -/
def update (s : Store) (l : Label) (new : Value) : Store :=
  { s with items := s.items.map fun e => (e.1, e.2.update l new) }

/-- A value with one more member at the end. -/
def appended (v member : Value) : Except Fault Value :=
  match v with
  | .list label items => .ok (.list label (items ++ [member]))
  | .octets true bs =>
    match member with
    | .int n =>
      if 0 ≤ n ∧ n < 256 then .ok (.octets true (bs ++ [UInt8.ofNat n.toNat]))
      else .error .malformed
    | _ => .error .unsuitable
  | _ => .error .noSuchOperation

/-- A value with a member or an entry replaced, or an entry added. -/
def assigned (v key member : Value) : Except Fault Value :=
  match v with
  | .mapping label false entries =>
    if key.isHashable then .ok (.mapping label false (Entries.insert key member entries))
    else .error .unsuitable
  | .list label items =>
    match key with
    | .int n =>
      let i := if n < 0 then n + items.length else n
      if 0 ≤ i ∧ i < items.length then .ok (.list label (items.set i.toNat member))
      else .error .missingPlace
    | _ => .error .unsuitable
  | _ => .error .unsuitable

/-- Changes the value under a name: for everybody who shares it, or, if it carries no label, under
this name. -/
def change (s : Store) (name : String) (old new : Value) : Store :=
  match old.label? with
  | some l => s.update l new
  | none => s.bind name (.value new)

/-- Adds a member to the value under a name. -/
def append (s : Store) (name : String) (old member : Value) : Except Fault Store :=
  match appended old member with
  | .ok new => .ok (s.change name old new)
  | .error e => .error e

/-- Sets an entry of the value under a name. -/
def put (s : Store) (name : String) (old key member : Value) : Except Fault Store :=
  match assigned old key member with
  | .ok new => .ok (s.change name old new)
  | .error e => .error e

@[simp] theorem find?_empty (name : String) : empty.find? name = none := rfl

theorem find?_bind_self (s : Store) (name : String) (item : Item) :
    (s.bind name item).find? name = some item := by
  simp [bind, find?]

end Store

end PropertyFilter
