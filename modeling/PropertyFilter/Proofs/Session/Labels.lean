import Mathlib
import PropertyFilter.Session.Step
import PropertyFilter.Proofs.Value.Sameness

/-!
# Labels of shared collections

A store gives out labels, and every collection with one label is one and the same. So a label
belongs to a list, to a mapping, or to a collection that cannot be changed in place: a tuple, a set
or a view. A change replaces the collections of one label by another of its kind; whatever is
hashable holds none of them and stays as it is.

## Main definitions

* `LabelKind`, `LabelKinds`: the kinds of collections, and the kinds of the labels given out
* `Value.Fits k v`: the labels in `v` are as `k` says, and its sets hold hashable members

## Main results

* `Value.update_of_isHashable`: a change leaves hashable values as they are
* `Value.Fits.update`: a change keeps the kinds of labels
* `Value.isHashable_update`: a change makes nothing hashable
-/

namespace PropertyFilter

/-- What a labelled collection is: a list, a mapping, or one that cannot be changed in place. -/
inductive LabelKind where
  | list
  | mapping
  | fixed
  deriving DecidableEq, Repr

/-- The kinds of the labels that were given out. -/
abbrev LabelKinds := Label → Option LabelKind

namespace LabelKinds

/-- A label, if there is one, was given to a collection of a kind. -/
def Admits (k : LabelKinds) (label : Option Label) (kind : LabelKind) : Prop :=
  ∀ l ∈ label, k l = some kind

/-- Labels that were given out keep their kind. -/
def Extends (k k' : LabelKinds) : Prop := ∀ l b, k l = some b → k' l = some b

variable {k k' k'' : LabelKinds}

theorem Extends.refl (k : LabelKinds) : k.Extends k := fun _ _ h => h

theorem Extends.trans (h : k.Extends k') (h' : k'.Extends k'') : k.Extends k'' :=
  fun l b hl => h' l b (h l b hl)

theorem Admits.mono {label : Option Label} {kind : LabelKind} (h : k.Admits label kind)
    (hk : k.Extends k') : k'.Admits label kind := fun l hl => hk l kind (h l hl)

theorem admits_none (kind : LabelKind) : k.Admits none kind := by simp [Admits]

/-- A label of another kind is another label. -/
theorem Admits.ne {label : Option Label} {kind : LabelKind} (h : k.Admits label kind) {l : Label}
    (hl : k l ≠ some kind) : label ≠ some l := by
  rintro rfl
  exact hl (h l rfl)

end LabelKinds

namespace Value

/-- The kind of a label that a value may carry. -/
def kind : Value → LabelKind
  | list _ _ => .list
  | mapping _ false _ => .mapping
  | _ => .fixed

theorem kind_mapping (l : Option Label) (view : Bool) (entries : List (Value × Value)) :
    (mapping l view entries).kind = if view then .fixed else .mapping := by
  cases view <;> rfl

mutual

/-- The labels of the collections in a value are as `k` says, and sets hold hashable members. -/
def Fits (k : LabelKinds) : Value → Prop
  | list l items => k.Admits l .list ∧ FitItems k items
  | tuple l items => k.Admits l .fixed ∧ FitItems k items
  | set l _ items => k.Admits l .fixed ∧ allHashable items = true ∧ FitItems k items
  | mapping l view entries => k.Admits l (if view then .fixed else .mapping) ∧ FitEntries k entries
  | _ => True

/-- The same for all values of a row. -/
def FitItems (k : LabelKinds) : List Value → Prop
  | [] => True
  | v :: vs => Fits k v ∧ FitItems k vs

/-- The same for the keys and values of entries. -/
def FitEntries (k : LabelKinds) : List (Value × Value) → Prop
  | [] => True
  | (key, v) :: es => Fits k key ∧ Fits k v ∧ FitEntries k es

end

variable {k k' : LabelKinds} {v w new : Value} {l : Label}

theorem fitItems_iff {vs : List Value} : FitItems k vs ↔ ∀ v ∈ vs, v.Fits k := by
  induction vs with
  | nil => simp [FitItems]
  | cons v vs ih => simp [FitItems, ih]

theorem fitEntries_iff {es : List (Value × Value)} :
    FitEntries k es ↔ ∀ e ∈ es, e.1.Fits k ∧ e.2.Fits k := by
  induction es with
  | nil => simp [FitEntries]
  | cons e es ih =>
    obtain ⟨key, v⟩ := e
    rw [FitEntries, ih, List.forall_mem_cons, and_assoc]

mutual

/-- What fits goes on fitting when more labels are given out. -/
theorem Fits.mono (hk : k.Extends k') : ∀ {v : Value}, v.Fits k → v.Fits k'
  | .list _ _, h => by
    rw [Fits] at h ⊢
    exact ⟨h.1.mono hk, FitItems.mono hk h.2⟩
  | .tuple _ _, h => by
    rw [Fits] at h ⊢
    exact ⟨h.1.mono hk, FitItems.mono hk h.2⟩
  | .set _ _ _, h => by
    rw [Fits] at h ⊢
    exact ⟨h.1.mono hk, h.2.1, FitItems.mono hk h.2.2⟩
  | .mapping _ _ _, h => by
    rw [Fits] at h ⊢
    exact ⟨h.1.mono hk, FitEntries.mono hk h.2⟩
  | .null, _ | .bool _, _ | .int _, _ | .float _, _ | .text _, _ | .octets _ _, _
  | .range _ _ _, _ | .type _ _, _ | .object _ _, _ | .date _ _, _ | .moment _ _, _
  | .clock _ _, _ => by simp [Fits]

theorem FitItems.mono (hk : k.Extends k') : ∀ {vs : List Value}, FitItems k vs → FitItems k' vs
  | [], _ => by simp [FitItems]
  | _ :: _, h => by
    rw [FitItems] at h ⊢
    exact ⟨Fits.mono hk h.1, FitItems.mono hk h.2⟩

theorem FitEntries.mono (hk : k.Extends k') :
    ∀ {es : List (Value × Value)}, FitEntries k es → FitEntries k' es
  | [], _ => by simp [FitEntries]
  | (_, _) :: _, h => by
    rw [FitEntries] at h ⊢
    exact ⟨Fits.mono hk h.1, Fits.mono hk h.2.1, FitEntries.mono hk h.2.2⟩

end

/-! ## Changes -/

mutual

/-- **A change leaves hashable values as they are**: tuples and frozen sets are never changed, and
they hold hashable values only. -/
theorem update_of_isHashable (hl : k l ≠ some .fixed) :
    ∀ {v : Value}, v.Fits k → v.isHashable = true → Value.update l new v = v
  | .tuple label items, h, hv => by
    rw [Fits] at h
    rw [isHashable] at hv
    rw [update, if_neg (h.1.ne hl), updateItems_of_allHashable hl h.2 hv]
  | .set label frozen items, h, _ => by
    rw [Fits] at h
    rw [update, if_neg (h.1.ne hl), updateItems_of_allHashable hl h.2.2 h.2.1]
  | .list _ _, _, hv => by simp [isHashable] at hv
  | .mapping _ _ _, _, hv => by simp [isHashable] at hv
  | .null, _, _ | .bool _, _, _ | .int _, _, _ | .float _, _, _ | .text _, _, _
  | .octets _ _, _, _ | .range _ _ _, _, _ | .type _ _, _, _ | .object _ _, _, _
  | .date _ _, _, _ | .moment _ _, _, _ | .clock _ _, _, _ => by simp [update]

theorem updateItems_of_allHashable (hl : k l ≠ some .fixed) :
    ∀ {vs : List Value}, FitItems k vs → allHashable vs = true → updateItems l new vs = vs
  | [], _, _ => by simp
  | v :: vs, h, hvs => by
    rw [FitItems] at h
    rw [allHashable, Bool.and_eq_true] at hvs
    rw [updateItems, update_of_isHashable hl h.1 hvs.1, updateItems_of_allHashable hl h.2 hvs.2]

end

mutual

/-- **A change keeps the kinds of labels.** -/
theorem Fits.update (hl : k l ≠ some .fixed) (hnew : new.Fits k) :
    ∀ {v : Value}, v.Fits k → (Value.update l new v).Fits k
  | .list label items, h => by
    rw [Value.update]
    split
    · exact hnew
    · rw [Fits] at h ⊢
      exact ⟨h.1, FitItems.update hl hnew h.2⟩
  | .tuple label items, h => by
    rw [Value.update]
    split
    · exact hnew
    · rw [Fits] at h ⊢
      exact ⟨h.1, FitItems.update hl hnew h.2⟩
  | .set label frozen items, h => by
    rw [Value.update]
    split
    · exact hnew
    · rw [Fits] at h
      rwa [updateItems_of_allHashable hl h.2.2 h.2.1, Fits]
  | .mapping label view entries, h => by
    rw [Value.update]
    split
    · exact hnew
    · rw [Fits] at h ⊢
      exact ⟨h.1, FitEntries.update hl hnew h.2⟩
  | .null, _ | .bool _, _ | .int _, _ | .float _, _ | .text _, _ | .octets _ _, _
  | .range _ _ _, _ | .type _ _, _ | .object _ _, _ | .date _ _, _ | .moment _ _, _
  | .clock _ _, _ => by simp [Value.update, Fits]

theorem FitItems.update (hl : k l ≠ some .fixed) (hnew : new.Fits k) :
    ∀ {vs : List Value}, FitItems k vs → FitItems k (updateItems l new vs)
  | [], _ => by simp [FitItems]
  | _ :: _, h => by
    rw [FitItems] at h
    rw [updateItems, FitItems]
    exact ⟨Fits.update hl hnew h.1, FitItems.update hl hnew h.2⟩

theorem FitEntries.update (hl : k l ≠ some .fixed) (hnew : new.Fits k) :
    ∀ {es : List (Value × Value)}, FitEntries k es → FitEntries k (updateEntries l new es)
  | [], _ => by simp [updateEntries, FitEntries]
  | (_, _) :: _, h => by
    rw [FitEntries] at h
    rw [updateEntries, FitEntries]
    exact ⟨Fits.update hl hnew h.1, Fits.update hl hnew h.2.1, FitEntries.update hl hnew h.2.2⟩

end

theorem isHashable_of_kind (h : v.kind ≠ .fixed) : v.isHashable = false := by
  cases v with
  | list | mapping => simp [isHashable]
  | _ => simp [kind] at h

mutual

/-- A change makes nothing hashable that was not, and leaves hashable what was. -/
theorem isHashable_update (hl : k l ≠ some .fixed) (hnew : new.kind ≠ .fixed) :
    ∀ {v : Value}, v.Fits k → (Value.update l new v).isHashable = v.isHashable
  | .list label items, _ => by
    rw [Value.update]
    split
    · rw [isHashable_of_kind hnew, isHashable]
    · simp [isHashable]
  | .mapping label view entries, _ => by
    rw [Value.update]
    split
    · rw [isHashable_of_kind hnew, isHashable]
    · simp [isHashable]
  | .tuple label items, h => by
    rw [Fits] at h
    rw [Value.update, if_neg (h.1.ne hl), isHashable, isHashable,
      allHashable_updateItems hl hnew h.2]
  | .set label frozen items, h => by
    rw [Fits] at h
    rw [Value.update, if_neg (h.1.ne hl), isHashable, isHashable]
  | .null, _ | .bool _, _ | .int _, _ | .float _, _ | .text _, _ | .octets _ _, _
  | .range _ _ _, _ | .type _ _, _ | .object _ _, _ | .date _ _, _ | .moment _ _, _
  | .clock _ _, _ => by simp [Value.update]

theorem allHashable_updateItems (hl : k l ≠ some .fixed) (hnew : new.kind ≠ .fixed) :
    ∀ {vs : List Value}, FitItems k vs → allHashable (updateItems l new vs) = allHashable vs
  | [], _ => by simp
  | _ :: _, h => by
    rw [FitItems] at h
    rw [updateItems, allHashable, allHashable, isHashable_update hl hnew h.1,
      allHashable_updateItems hl hnew h.2]

end

/-- A text is told from everything else before and after a change alike. -/
theorem same_text_update (hnew : new.kind ≠ .fixed) (s : String) (v : Value) :
    same (text s) (Value.update l new v) = same (text s) v := by
  have hother : ∀ w : Value, w.text? = none → same (text s) w = false := by
    intro w hw
    rw [Bool.eq_false_iff, ne_eq, same_text_iff]
    rintro rfl
    simp at hw
  have hchanged : new.text? = none := by
    cases new with
    | text t => simp [kind] at hnew
    | _ => rfl
  cases v with
  | list label items | tuple label items | set label frozen items | mapping label view entries =>
    rw [Value.update]
    split
    · rw [hother _ hchanged, hother _ rfl]
    · rw [hother _ rfl, hother _ rfl]
  | _ => simp [Value.update]

end Value

end PropertyFilter
