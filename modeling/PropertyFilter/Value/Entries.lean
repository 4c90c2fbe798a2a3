import PropertyFilter.Value.Same

/-!
# Entries of a mapping

A mapping is the list of its entries in the order in which their keys first came in. Keys are
pairwise different up to sameness; a later entry with a key that is there already replaces the
value and leaves the place.

## Main definitions

* `Entries.find?`: the value under a key
* `Entries.insert`: adds or replaces an entry
* `Entries.ofList`: the mapping that a sequence of insertions makes

## Main results

* `Entries.find?_insert_self`: what was put under a key is found under it
-/

namespace PropertyFilter

/-- The entries of a mapping from values to `α`, in order. -/
abbrev Entries (α : Type) := List (Value × α)

namespace Entries

variable {α : Type}

/-- The value under a key. -/
def find? (es : Entries α) (key : Value) : Option α :=
  (List.find? (fun e => e.1.same key) es).map Prod.snd

/-- Replaces the value under a key, or adds an entry at the end. -/
def insert (key : Value) (a : α) : Entries α → Entries α
  | [] => [(key, a)]
  | (k, b) :: es => if k.same key then (k, a) :: es else (k, b) :: insert key a es

/-- The mapping made by inserting entries one after the other. -/
def ofList (es : List (Value × α)) : Entries α :=
  es.foldl (fun acc e => insert e.1 e.2 acc) []

/-- The value under a text key. -/
def findText? (es : Entries α) (key : String) : Option α := find? es (.text key)

@[simp] theorem find?_nil (key : Value) : find? ([] : Entries α) key = none := rfl

theorem find?_cons (key k : Value) (a : α) (es : Entries α) :
    find? ((k, a) :: es) key = if k.same key then some a else find? es key := by
  unfold find?
  by_cases h : k.same key <;> simp [List.find?, h]

@[simp] theorem insert_nil (key : Value) (a : α) : insert key a [] = [(key, a)] := rfl

@[simp] theorem ofList_nil : ofList ([] : List (Value × α)) = [] := rfl

/-- What was put under a key is found under it. -/
theorem find?_insert_self (key : Value) (a : α) (es : Entries α) (h : key.same key = true) :
    find? (insert key a es) key = some a := by
  induction es with
  | nil => simp [find?_cons, h]
  | cons e es ih =>
    obtain ⟨k, b⟩ := e
    unfold insert
    split
    · next hk => simp [find?_cons, hk]
    · next hk => simp [find?_cons, hk, ih]

end Entries

end PropertyFilter
