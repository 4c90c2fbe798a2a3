import PropertyFilter.Fault
import PropertyFilter.Value.Entries

/-!
# Tables of a TOML document

The tables of a document are built up statement by statement. A table is reached by a dotted key;
where the key meets an array of tables it goes on in the last one. Marks remember which tables must
not be opened again and which must not be changed at all.

## Main definitions

* `Toml.within`: a change to the table behind a key
* `Toml.Marks`: the marks
* `Toml.appendTable`: a new table at the end of an array
-/

namespace PropertyFilter.Toml

/-- A table: its entries in order. -/
abbrev Table := List (Value × Value)

/-- A change to a table. -/
abbrev Change := Table → ReadResult Table

/-- A change to the table that a value is, or, if arrays may be entered, to the last table of the
array that it is. -/
def changeValue (enterArrays : Bool) (f : Change) (v : Value) : ReadResult Value :=
  match v with
  | .mapping l view es => (f es).map (.mapping l view)
  | .list l items =>
    match enterArrays, items.getLast? with
    | true, some (.mapping l' view es) =>
      (f es).map fun es' => .list l (items.dropLast ++ [.mapping l' view es'])
    | _, _ => .error .malformed
  | _ => .error .malformed

/-- A change to the table behind a key; tables that are not there yet are made. -/
def within (enterArrays : Bool) : (key : List String) → Change → Change
  | [], f => f
  | k :: ks, f => fun t => do
    let v := (Entries.findText? t k).getD (.mapping none false [])
    let v' ← changeValue enterArrays (within enterArrays ks f) v
    return Entries.insert (.text k) v' t

/-- Puts a value under a name that is not taken. -/
def addNew (name : String) (v : Value) : Change := fun t =>
  match Entries.findText? t name with
  | some _ => .error .malformed
  | none => .ok (Entries.insert (.text name) v t)

/-- Puts a new table at the end of the array of tables under a name. -/
def appendTable (name : String) : Change := fun t =>
  match Entries.findText? t name with
  | none => .ok (Entries.insert (.text name) (.list none [.mapping none false []]) t)
  | some (.list l items) =>
    .ok (Entries.insert (.text name) (.list l (items ++ [.mapping none false []])) t)
  | some _ => .error .malformed

/-- What must not be done to the table behind a key. -/
inductive Mark where
  /-- It must not be changed. -/
  | frozen
  /-- It must not be opened again. -/
  | opened
  deriving DecidableEq, Repr

/-- A mark at a key, which may extend to everything behind it. -/
structure Marked where
  key : List String
  mark : Mark
  deep : Bool
  deriving DecidableEq, Repr

/-- The marks of a document. -/
abbrev Marks := List Marked

namespace Marks

/-- Whether a key is marked itself or lies behind a key with a deep mark. -/
def has (ms : Marks) (key : List String) (m : Mark) : Bool :=
  ms.any fun e => e.mark == m && (e.key == key || (e.deep && e.key.isPrefixOf key && e.key != []))

/-- Marks a key. -/
def add (ms : Marks) (key : List String) (m : Mark) (deep : Bool) : Marks := ⟨key, m, deep⟩ :: ms

/-- Takes away the marks of a key and of everything behind it. -/
def clear (ms : Marks) (key : List String) : Marks := ms.filter fun e => !key.isPrefixOf e.key

end Marks

end PropertyFilter.Toml
