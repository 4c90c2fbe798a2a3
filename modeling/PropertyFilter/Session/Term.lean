import PropertyFilter.Session.Store

/-!
# Terms

A term writes down a value and may mention the names of a store inside collections; the value of a
name is shared and not copied.

## Main definitions

* `Term`: the terms
* `Term.eval`: the value of a term in a store
-/

namespace PropertyFilter

/-- A value written down, with names in it. -/
inductive Term where
  | value (v : Value)
  | ref (name : String)
  | list (items : List Term)
  | tuple (items : List Term)
  | set (frozen : Bool) (items : List Term)
  | mapping (view : Bool) (entries : List (Term × Term))
  deriving Repr, Inhabited

namespace Term

mutual

/-- The value of a term in a store; a name that stands for no value is worth nothing. -/
def eval (s : Store) : Term → Value
  | value v => v
  | ref name => (s.value? name).getD .null
  | list items => .list none (evalItems s items)
  | tuple items => .tuple none (evalItems s items)
  | set frozen items => .set none frozen (distinct (evalItems s items))
  | mapping view entries => .mapping none view (Entries.ofList (evalEntries s entries))

/-- The values of a row of terms. -/
def evalItems (s : Store) : List Term → List Value
  | [] => []
  | t :: ts => eval s t :: evalItems s ts

/-- The values of entries. -/
def evalEntries (s : Store) : List (Term × Term) → List (Value × Value)
  | [] => []
  | (k, t) :: es => (eval s k, eval s t) :: evalEntries s es

end

/-- The value of a term that mentions no names. -/
def closed (t : Term) : Value := t.eval .empty

@[simp] theorem evalItems_nil (s : Store) : evalItems s [] = [] := by simp [evalItems]

end Term

end PropertyFilter
