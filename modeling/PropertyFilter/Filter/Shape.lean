import PropertyFilter.Fault
import PropertyFilter.Text.Fields
import PropertyFilter.Value.Basic

/-!
# Shapes of filter configurations

A filter is configured by a text that lists names, or by a mapping from types to names. Whatever
else is found is unsupported.

## Main definitions

* `Shape`, `Shape.ofValue`: the shapes and the shape of a value
* `typeKey?`: the type that a mapping key stands for
* `propertyNames?`: the names that a mapping value stands for
* `readNames`: the names that a value lists when it is taken for a text
-/

namespace PropertyFilter

/-- What a filter configuration looks like. -/
inductive Shape where
  /-- A text that lists names. -/
  | names (text : String)
  /-- A mapping from types to names. -/
  | types (entries : List (Value × Value))
  /-- Anything else, nothing included. -/
  | unsupported (value : Value)
  deriving Repr, Inhabited

/-- The shape of a value. -/
def Shape.ofValue : Value → Shape
  | .text s => .names s
  | .mapping _ _ entries => .types entries
  | v => .unsupported v

/-- The type that a key stands for: a text is its name, a type has a simple name. -/
def typeKey? : Value → Option String
  | .text s => some s
  | .type name _ => some name
  | _ => none

/-- The names that a text lists, as values. -/
def listedNames (s : String) : List Value := (Text.NameList.read s).map .text

/-- The names that a value stands for: a text lists them, a row or a set holds them. -/
def propertyNames? : Value → Option (List Value)
  | .text s => some (listedNames s)
  | .list _ items | .tuple _ items | .set _ _ items => some items
  | .range a b c => some ((Value.rangeItems a b c).map .int)
  | _ => none

/-- The names that a value lists when it is taken for a text: an absent or empty value lists none,
octets cannot be split at a text, and other values cannot be split at all. -/
def readNames (v : Value) : Except Fault (List String) :=
  if !v.isTruthy then .ok []
  else match v with
    | .text s => .ok (Text.NameList.read s)
    | .octets _ _ => .error .unsuitable
    | _ => .error .noSuchOperation

@[simp] theorem typeKey?_text (s : String) : typeKey? (.text s) = some s := rfl

@[simp] theorem typeKey?_type (name : String) (serial : Nat) :
    typeKey? (.type name serial) = some name := rfl

@[simp] theorem propertyNames?_text (s : String) :
    propertyNames? (.text s) = some (listedNames s) := rfl

end PropertyFilter
