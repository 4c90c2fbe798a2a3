import PropertyFilter.Proofs.Session.Copies

/-!
# Stores and terms that fit

Every labelled collection that a store holds, or that a term stands for in it, is of the kind of its
label. A term says nothing about labels itself: it takes over those of the things it mentions.

## Main definitions

* `Item.Fits`, `Store.Fits`: the labels in a thing, or in a store, are as `k` says
* `Term.Proper`: the term can be written down: the members of its sets are hashable
* `Term.mentions`: the names in a term

## Main results

* `Term.fits_eval`: in a store that fits, a proper term stands for a value that fits
-/

namespace PropertyFilter

variable {k k' : LabelKinds} {s : Store}

/-- The labels in a thing are as `k` says. -/
def Item.Fits (k : LabelKinds) : Item → Prop
  | value v => v.Fits k
  | filter f => f.Fits k
  | filters c => c.Fits k

theorem Item.Fits.mono (hk : k.Extends k') {item : Item} (h : item.Fits k) : item.Fits k' := by
  cases item with
  | value v => exact Value.Fits.mono hk h
  | filter f => exact NameFilter.Fits.mono h hk
  | filters c => exact ⟨h.excludes.mono hk, h.includes.mono hk⟩

/-! ## Stores -/

/-- The labels in a store are as `k` says, and `k` knows no label that was not given out yet. -/
structure Store.Fits (k : LabelKinds) (s : Store) : Prop where
  items : ∀ e ∈ s.items, e.2.Fits k
  fresh : ∀ l, s.labels ≤ l → k l = none

theorem Store.fits_empty : Store.Fits (fun _ => none) .empty :=
  ⟨by simp [Store.empty], fun _ _ => rfl⟩

theorem Store.Fits.find? (h : s.Fits k) {name : String} {item : Item}
    (hitem : s.find? name = some item) : item.Fits k := by
  obtain ⟨e, he, rfl⟩ := Option.map_eq_some_iff.mp hitem
  exact h.items e (List.mem_of_find?_eq_some he)

theorem Store.value?_eq_some_iff {name : String} {v : Value} :
    s.value? name = some v ↔ s.find? name = some (.value v) := by
  unfold Store.value?
  split <;> simp_all

theorem Store.Fits.value? (h : s.Fits k) {name : String} {v : Value}
    (hv : s.value? name = some v) : v.Fits k :=
  h.find? (Store.value?_eq_some_iff.mp hv)

/-! ## Terms -/

namespace Term

mutual

/-- The term can be written down: it makes up no label, and the members of its sets are hashable. -/
def Proper (s : Store) : Term → Prop
  | value v => v.Fits fun _ => none
  | ref _ => True
  | list items | tuple items => ProperItems s items
  | set _ items => Value.allHashable (evalItems s items) = true ∧ ProperItems s items
  | mapping _ entries => ProperEntries s entries

/-- All terms of a row are proper. -/
def ProperItems (s : Store) : List Term → Prop
  | [] => True
  | t :: ts => Proper s t ∧ ProperItems s ts

/-- All keys and values of entries are proper. -/
def ProperEntries (s : Store) : List (Term × Term) → Prop
  | [] => True
  | (key, t) :: es => Proper s key ∧ Proper s t ∧ ProperEntries s es

end

mutual

/-- The names in a term. -/
def mentions : Term → List String
  | value _ => []
  | ref name => [name]
  | list items | tuple items | set _ items => mentionsItems items
  | mapping _ entries => mentionsEntries entries

/-- The names in a row of terms. -/
def mentionsItems : List Term → List String
  | [] => []
  | t :: ts => mentions t ++ mentionsItems ts

/-- The names in entries. -/
def mentionsEntries : List (Term × Term) → List String
  | [] => []
  | (key, t) :: es => mentions key ++ (mentions t ++ mentionsEntries es)

end

theorem properItems_iff {ts : List Term} : ProperItems s ts ↔ ∀ t ∈ ts, t.Proper s := by
  induction ts with
  | nil => simp [ProperItems]
  | cons t ts ih => simp [ProperItems, ih]

mutual

/-- **A proper term stands for a value that fits.** -/
theorem fits_eval (hs : s.Fits k) : ∀ {t : Term}, t.Proper s → (t.eval s).Fits k
  | .value v, h => by
    rw [Proper] at h
    rw [eval]
    exact h.mono fun _ _ h => by simp at h
  | .ref name, _ => by
    rw [eval]
    cases hv : s.value? name with
    | none => simp [Value.Fits]
    | some v => exact hs.value? hv
  | .list items, h => by
    rw [Proper] at h
    rw [eval, Value.Fits]
    exact ⟨k.admits_none _, fits_evalItems hs h⟩
  | .tuple items, h => by
    rw [Proper] at h
    rw [eval, Value.Fits]
    exact ⟨k.admits_none _, fits_evalItems hs h⟩
  | .set frozen items, h => by
    rw [Proper] at h
    rw [eval, Value.Fits]
    refine ⟨k.admits_none _, Value.allHashable_iff.mpr ?_, Value.fitItems_iff.mpr ?_⟩
    · exact forall_mem_distinct (Value.allHashable_iff.mp h.1)
    · exact forall_mem_distinct (Value.fitItems_iff.mp (fits_evalItems hs h.2))
  | .mapping view entries, h => by
    rw [Proper] at h
    rw [eval, Value.Fits]
    refine ⟨k.admits_none _, Value.fitEntries_iff.mpr ?_⟩
    exact Entries.forall_mem_ofList (Value.fitEntries_iff.mp (fits_evalEntries hs h))

theorem fits_evalItems (hs : s.Fits k) :
    ∀ {ts : List Term}, ProperItems s ts → Value.FitItems k (evalItems s ts)
  | [], _ => by simp [Value.FitItems]
  | t :: ts, h => by
    rw [ProperItems] at h
    rw [evalItems, Value.FitItems]
    exact ⟨fits_eval hs h.1, fits_evalItems hs h.2⟩

theorem fits_evalEntries (hs : s.Fits k) :
    ∀ {es : List (Term × Term)}, ProperEntries s es → Value.FitEntries k (evalEntries s es)
  | [], _ => by simp [evalEntries, Value.FitEntries]
  | (key, t) :: es, h => by
    rw [ProperEntries] at h
    rw [evalEntries, Value.FitEntries]
    exact ⟨fits_eval hs h.1, fits_eval hs h.2.1, fits_evalEntries hs h.2.2⟩

end

end Term

end PropertyFilter
