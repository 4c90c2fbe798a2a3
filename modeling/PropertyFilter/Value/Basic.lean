import PropertyFilter.Number.Binary64
import PropertyFilter.Time.Calendar

/-!
# Configuration values

Filter configurations are loosely typed: they hold whatever a file or a caller puts into them. A
value is a scalar, a type, an object of some type, or a collection of values. A collection may
carry a label; two collections with one label are one shared collection, so a change to one is a
change to the other and a printer may show that they are the same.

## Main definitions

* `Value`: the values
* `Value.typeName`: the simple name of a value's type
* `Value.isTruthy`: whether a value counts as present
* `Value.isHashable`: whether a value may be a member of a set or a key of a mapping
* `Value.members?`: the members that a value yields when it is gone through
* `Value.entries?`: the entries of a mapping
-/

namespace PropertyFilter

open Number (Binary64)
open Time (Date ClockTime Moment)

/-- The label of a collection that several places share. -/
abbrev Label := Nat

/-- A loosely typed value. -/
inductive Value where
  | null
  | bool (b : Bool)
  | int (n : Int)
  | float (x : Binary64)
  | text (s : String)
  /-- Octets; the growable kind may not be a member of a set. -/
  | octets (growable : Bool) (bs : List UInt8)
  | list (label : Option Label) (items : List Value)
  | tuple (label : Option Label) (items : List Value)
  /-- A set, gone through in the order of `items`, which are pairwise different. -/
  | set (label : Option Label) (frozen : Bool) (items : List Value)
  /-- A mapping in the order of its entries, or a read-only view of one. -/
  | mapping (label : Option Label) (view : Bool) (entries : List (Value × Value))
  | range (start stop step : Int)
  /-- A type, told from others of the same simple name by a number. -/
  | type (name : String) (serial : Nat)
  /-- An object of a type, told from others by a number. -/
  | object (typeName : String) (serial : Nat)
  | date (label : Option Label) (d : Date)
  | moment (label : Option Label) (m : Moment)
  | clock (label : Option Label) (t : ClockTime)
  deriving Repr, Inhabited

namespace Value

/-- The simple name of a value's type. -/
def typeName : Value → String
  | null => "NoneType"
  | bool _ => "bool"
  | int _ => "int"
  | float _ => "float"
  | text _ => "str"
  | octets growable _ => if growable then "bytearray" else "bytes"
  | list _ _ => "list"
  | tuple _ _ => "tuple"
  | set _ frozen _ => if frozen then "frozenset" else "set"
  | mapping _ view _ => if view then "mappingproxy" else "dict"
  | range _ _ _ => "range"
  | type _ _ => "type"
  | object name _ => name
  | date _ _ => "date"
  | moment _ _ => "datetime"
  | clock _ _ => "time"

/-- The number of whole numbers from `start` towards `stop` by `step`. -/
def rangeSize (start stop step : Int) : Nat :=
  if 0 < step then ((stop - start + step - 1) / step).toNat
  else if step < 0 then ((start - stop - step - 1) / (-step)).toNat
  else 0

/-- The whole numbers from `start` towards `stop`, which is left out, by `step`. -/
def rangeItems (start stop step : Int) : List Int :=
  (List.range (rangeSize start stop step)).map fun i : Nat => start + (i : Int) * step

/-- Whether a value counts as present: zero, nothing and whatever is empty do not. -/
def isTruthy : Value → Bool
  | null => false
  | bool b => b
  | int n => n != 0
  | float x => !x.isZero
  | text s => s != ""
  | octets _ bs => !bs.isEmpty
  | list _ items | tuple _ items | set _ _ items => !items.isEmpty
  | mapping _ _ entries => !entries.isEmpty
  | range a b c => rangeSize a b c != 0
  | type _ _ | object _ _ | date _ _ | moment _ _ | clock _ _ => true

mutual

/-- Whether a value may be a member of a set or a key of a mapping: nothing in it can change. -/
def isHashable : Value → Bool
  | octets growable _ => !growable
  | list _ _ => false
  | tuple _ items => allHashable items
  | set _ frozen _ => frozen
  | mapping _ _ _ => false
  | _ => true

/-- Whether all values of a row are hashable. -/
def allHashable : List Value → Bool
  | [] => true
  | v :: vs => isHashable v && allHashable vs

end

/-- The members that a value yields when it is gone through; none for what cannot be. -/
def members? : Value → Option (List Value)
  | text s => some (s.toList.map fun c => text (String.singleton c))
  | octets _ bs => some (bs.map fun b => int b.toNat)
  | list _ items | tuple _ items | set _ _ items => some items
  | mapping _ _ entries => some (entries.map Prod.fst)
  | range a b c => some ((rangeItems a b c).map int)
  | _ => none

/-- The entries of a mapping, in order. -/
def entries? : Value → Option (List (Value × Value))
  | mapping _ _ entries => some entries
  | _ => none

/-- Whether a value is a mapping. -/
def isMapping (v : Value) : Bool := v.entries?.isSome

/-- A text, if the value is one. -/
def text? : Value → Option String
  | text s => some s
  | _ => none

/-- The label of a shared collection. -/
def label? : Value → Option Label
  | list l _ | tuple l _ | set l _ _ | mapping l _ _ => l
  | date l _ | moment l _ | clock l _ => l
  | _ => none

/-- Gives a value without a label the given one; values that cannot be shared stay as they are. -/
def withLabel (l : Label) : Value → Value
  | list none items => list (some l) items
  | tuple none items => tuple (some l) items
  | set none frozen items => set (some l) frozen items
  | mapping none view entries => mapping (some l) view entries
  | date none d => date (some l) d
  | moment none m => moment (some l) m
  | clock none t => clock (some l) t
  | v => v

@[simp] theorem allHashable_nil : allHashable [] = true := by simp [allHashable]

@[simp] theorem isHashable_text (s : String) : (text s).isHashable = true := by simp [isHashable]

@[simp] theorem entries?_mapping (l : Option Label) (view : Bool) (es : List (Value × Value)) :
    (mapping l view es).entries? = some es := rfl

@[simp] theorem text?_text (s : String) : (text s).text? = some s := rfl

end Value

end PropertyFilter
