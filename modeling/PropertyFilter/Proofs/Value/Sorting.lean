import Mathlib.Data.List.Sort
import Mathlib.Data.String.Basic
import PropertyFilter.Value.Order

/-!
# Texts in order

Texts have an order, so a row of texts can always be sorted. Sorting keeps the texts, and if no text
comes up twice, the sorted row is strictly increasing, which makes it the only one with these texts.

## Main definitions

* `AreTexts`: all values of a row are texts

## Main results

* `sorted?_map_text`: sorting a row of texts
* `pairwise_insertionSort_of_nodup`: different texts are sorted into a strictly increasing row
* `eq_of_perm_of_increasing`: strictly increasing rows of the same texts are equal
-/

namespace PropertyFilter

/-- All values are texts. -/
abbrev AreTexts (vs : List Value) : Prop := ∀ v ∈ vs, ∃ s, v = .text s

theorem areTexts_map_text (names : List String) : AreTexts (names.map .text) := by
  intro v hv
  obtain ⟨n, -, rfl⟩ := List.mem_map.mp hv
  exact ⟨n, rfl⟩

theorem exists_eq_map_text {vs : List Value} (h : AreTexts vs) :
    ∃ names : List String, vs = names.map .text := by
  induction vs with
  | nil => exact ⟨[], rfl⟩
  | cons v vs ih =>
    rw [AreTexts, List.forall_mem_cons] at h
    obtain ⟨⟨s, rfl⟩, hrest⟩ := h
    obtain ⟨names, rfl⟩ := ih hrest
    exact ⟨s :: names, rfl⟩

theorem insertSorted?_map_text (s : String) (names : List String) :
    insertSorted? (.text s) (names.map .text) =
      some ((names.orderedInsert (· < ·) s).map .text) := by
  induction names with
  | nil => rfl
  | cons t names ih =>
    have hless : (Value.text s).less? (.text t) = some (decide (s < t)) := by rw [Value.less?]
    rw [List.map_cons, insertSorted?, hless, ih, List.orderedInsert_cons]
    by_cases hst : s < t <;> simp [hst]

/-- **Sorting a row of texts** always succeeds. -/
theorem sorted?_map_text (names : List String) :
    sorted? (names.map .text) = some ((names.insertionSort (· < ·)).map .text) := by
  induction names with
  | nil => rfl
  | cons s names ih =>
    rw [List.map_cons, sorted?, ih, List.insertionSort_cons]
    exact insertSorted?_map_text s _

/-- One more text keeps a strictly increasing row so, if it is not there yet. -/
theorem pairwise_orderedInsert_of_notMem {s : String} {names : List String}
    (h : names.Pairwise (· < ·)) (hs : s ∉ names) :
    (names.orderedInsert (· < ·) s).Pairwise (· < ·) := by
  induction names with
  | nil => simp
  | cons t names ih =>
    rw [List.pairwise_cons] at h
    rw [List.mem_cons, not_or] at hs
    rw [List.orderedInsert_cons]
    split
    · next hst =>
      rw [List.pairwise_cons, List.forall_mem_cons, List.pairwise_cons]
      exact ⟨⟨hst, fun u hu => hst.trans (h.1 u hu)⟩, h⟩
    · next hst =>
      have hts : t < s := lt_of_le_of_ne (not_lt.mp hst) (Ne.symm hs.1)
      rw [List.pairwise_cons]
      refine ⟨fun u hu => ?_, ih h.2 hs.2⟩
      rcases List.mem_cons.mp ((List.perm_orderedInsert _ s names).mem_iff.mp hu) with rfl | hu
      · exact hts
      · exact h.1 u hu

/-- Different texts are sorted into a strictly increasing row. -/
theorem pairwise_insertionSort_of_nodup {names : List String} (h : names.Nodup) :
    (names.insertionSort (· < ·)).Pairwise (· < ·) := by
  induction names with
  | nil => simp
  | cons s names ih =>
    rw [List.nodup_cons] at h
    rw [List.insertionSort_cons]
    refine pairwise_orderedInsert_of_notMem (ih h.2) fun hs => h.1 ?_
    exact (List.perm_insertionSort _ names).mem_iff.mp hs

/-- **Strictly increasing rows** of the same texts are equal. -/
theorem eq_of_perm_of_increasing {names names' : List String} (h : names.Pairwise (· < ·))
    (h' : names'.Pairwise (· < ·)) (hperm : names.Perm names') : names = names' := by
  refine hperm.eq_of_pairwise (fun s t _ _ hst hts => ?_) h h'
  exact absurd hst hts.asymm

end PropertyFilter
