import PropertyFilter.Proofs.Filter.Snapshot

/-!
# Filters that hold no names

Whatever a configuration looks like, the filter that it describes keeps to one form: types are
known by texts, each once, and none of them is left without names. So an empty filter can be told
from others by its answers: where a filter of that form holds a text, some query answers yes.

## Main definitions

* `NameFilter.IsWellFormed`: the form of filters that configurations describe
* `ListsTexts`: a value whose entries hold no names but texts

## Main results

* `NameFilter.IsWellFormed.isEmpty_iff`: a filter is empty if it answers no query about texts
* `NameFilter.fromConfiguration_isWellFormed`: every configuration describes such a filter
-/

namespace PropertyFilter

/-- All names that the entries of a value hold are texts, whether they count or not. -/
def ListsTexts (raw : Value) : Prop :=
  ∀ e ∈ raw.entries?.getD [], ∀ names, propertyNames? e.2 = some names → AreTexts names

namespace NameFilter

variable {f : NameFilter} {raw : Value} {defaults : List Value}

/-- The form of the filters that configurations describe, with given default names. -/
structure IsWellFormed (f : NameFilter) (defaults : List Value) : Prop where
  areTexts_globalNames : AreTexts f.globalNames
  areTexts_types : AreTexts (f.namesByType.map Prod.fst)
  nodup_types : (f.namesByType.map Prod.fst).Nodup
  /-- No type is left without names. -/
  ne_nil : ∀ row ∈ f.namesByType, row.2 ≠ []
  /-- Names for types and further global names exclude each other. -/
  one_kind : f.namesByType = [] ∨ ∀ v ∈ f.globalNames, v ∈ defaults

/-! ## Emptiness -/

theorem matchesType_of_isEmpty (h : f.isEmpty = true) (typeId : Value) (n : String) :
    f.matchesType typeId (.text n) = .ok false := by
  rw [isEmpty, Bool.and_eq_true, List.isEmpty_iff, List.isEmpty_iff] at h
  obtain ⟨hglobal, htypes⟩ := h
  have hnames : f.namesFor typeId = [] := by
    unfold namesFor namesUnder
    rw [htypes]
    cases typeKey? typeId <;> rfl
  rw [matchesType_text, matchesText, hglobal, hnames]
  rfl

/-- A global text matches on owners of any type. -/
theorem exists_matchesType_of_global (h : AreTexts f.globalNames) (hne : f.globalNames ≠ [])
    (typeId : Value) : ∃ n, f.matchesType typeId (.text n) = .ok true := by
  obtain ⟨v, hv⟩ := List.exists_mem_of_ne_nil _ hne
  obtain ⟨n, rfl⟩ := h v hv
  obtain ⟨b, hb, hmatches⟩ := matchesType_text_iff f typeId n
  exact ⟨n, hb.trans (congrArg _ (hmatches.mpr (.inl hv)))⟩

/-- A text in the row of a type matches on owners of that type. -/
theorem IsWellFormed.exists_matchesType_of_row (h : f.IsWellFormed defaults)
    {row : Value × List Value} (hrow : row ∈ f.namesByType) (htexts : AreTexts row.2) :
    ∃ t n, f.matchesType (.text t) (.text n) = .ok true := by
  obtain ⟨t, ht⟩ := h.areTexts_types row.1 (List.mem_map_of_mem hrow)
  obtain ⟨v, hv⟩ := List.exists_mem_of_ne_nil _ (h.ne_nil row hrow)
  obtain ⟨n, rfl⟩ := htexts v hv
  have hfound : Entries.findText? f.namesByType t = some row.2 := by
    rw [← Entries.mem_iff_findText? h.nodup_types, ← ht]
    exact hrow
  have hmem : .text n ∈ f.namesFor (.text t) := by
    simp only [namesFor, typeKey?_text, namesUnder, hfound, Option.getD_some]
    exact hv
  obtain ⟨b, hb, hmatches⟩ := matchesType_text_iff f (.text t) n
  exact ⟨t, n, hb.trans (congrArg _ (hmatches.mpr (.inr hmem)))⟩

/-- **A filter is empty if it answers no query**, where all its names are texts. -/
theorem IsWellFormed.isEmpty_iff (h : f.IsWellFormed defaults)
    (hrows : ∀ row ∈ f.namesByType, AreTexts row.2) :
    f.isEmpty = true ↔ ∀ typeId t, typeKey? typeId = some t →
      ∀ n, f.matchesType typeId (.text n) = .ok false := by
  constructor
  · intro hempty typeId t _ n
    exact matchesType_of_isEmpty hempty typeId n
  · intro hnone
    have hglobal : f.globalNames = [] := by
      by_contra hne
      obtain ⟨n, hn⟩ := exists_matchesType_of_global h.areTexts_globalNames hne (.text "")
      rw [hnone (.text "") "" rfl n] at hn
      contradiction
    have htypes : f.namesByType = [] := by
      by_contra hne
      obtain ⟨row, hrow⟩ := List.exists_mem_of_ne_nil _ hne
      obtain ⟨t, n, hn⟩ := h.exists_matchesType_of_row hrow (hrows row hrow)
      rw [hnone (.text t) t rfl n] at hn
      contradiction
    rw [isEmpty, hglobal, htypes]
    rfl

/-! ## Configurations -/

/-- Only a text adds global names, and it has no entries. -/
theorem globalNamesOf_eq_nil_of_entries {entries : List (Value × Value)}
    (h : raw.entries? = some entries) : globalNamesOf (Shape.ofValue raw) = [] := by
  rw [List.eq_nil_iff_forall_not_mem]
  intro v hv
  obtain ⟨s, rfl, -⟩ := mem_globalNamesOf_iff.mp hv
  contradiction

theorem isWellFormed_configured (raw : Value) (hd : AreTexts defaults) :
    (configured raw defaults).IsWellFormed defaults := by
  have htypes : (configured raw defaults).namesByType = typesOf (raw.entries?.getD []) :=
    namesByTypeOf_ofValue raw
  obtain ⟨hnodup, hkeys⟩ := typesOf_keys (raw.entries?.getD [])
  refine ⟨areTexts_configured raw hd, ?_, ?_, ?_, ?_⟩
  · rwa [htypes]
  · rwa [htypes]
  · rw [htypes]
    exact typesOf_rows _
  · cases hraw : raw.entries? with
    | none => exact .inl (namesByTypeOf_of_no_entries hraw)
    | some entries =>
      right
      intro v hv
      have hmem := (distinct_isSetOf _).sublist.subset hv
      rwa [globalNamesOf_eq_nil_of_entries hraw, List.append_nil] at hmem

theorem areTexts_configured_rows (h : ListsTexts raw) :
    ∀ row ∈ (configured raw defaults).namesByType, AreTexts row.2 := by
  intro row hrow
  rw [configured, namesByTypeOf_ofValue] at hrow
  obtain ⟨e, he, hnames⟩ := exists_entry_of_mem_typesOf hrow
  exact h e he row.2 hnames

/-- **What filters from configurations hold.** Whatever a value is, with texts for default names it
describes a filter of the one form, which has a plain value. If the value holds no names but texts,
the filter is empty just if it answers no query about a type and a text. -/
theorem fromConfiguration_isWellFormed (raw : Value) (hd : AreTexts defaults) :
    ∃ f, (fromConfiguration raw defaults).outcome = .ok f ∧ f.IsWellFormed defaults ∧
      (∃ d, f.snapshot = .ok d) ∧
      (ListsTexts raw → (f.isEmpty = true ↔ ∀ typeId t, typeKey? typeId = some t →
        ∀ n, f.matchesType typeId (.text n) = .ok false)) := by
  have hform := isWellFormed_configured raw hd
  refine ⟨_, outcome_fromConfiguration raw (allHashable_of_areTexts hd), hform, ?_, ?_⟩
  · obtain ⟨names, hsnapshot, -, -⟩ := exists_snapshot_of_areTexts hform.areTexts_globalNames
    exact ⟨_, hsnapshot⟩
  · intro htexts
    exact hform.isEmpty_iff (areTexts_configured_rows htexts)

/-- Entries that are passed over, hold nothing or list blanks leave a filter empty. -/
theorem fromConfiguration_isWellFormed_void :
    AreTexts [] ∧ ∃ f, (fromConfiguration (.mapping none false
        [(.text "User", .list none []), (.type "User" 0, .text " , "),
          (.int 3, .list none [.text "a"])]) []).outcome = .ok f ∧
      f.isEmpty = true ∧ ∀ typeId t, typeKey? typeId = some t →
        ∀ n, f.matchesType typeId (.text n) = .ok false := by
  have hd : AreTexts [] := by simp [AreTexts]
  refine ⟨hd, ?_⟩
  obtain ⟨f, hf, -, -, hempty⟩ := fromConfiguration_isWellFormed (.mapping none false
    [(.text "User", .list none []), (.type "User" 0, .text " , "),
      (.int 3, .list none [.text "a"])]) hd
  have htexts : ListsTexts (.mapping none false
      [(.text "User", .list none []), (.type "User" 0, .text " , "),
        (.int 3, .list none [.text "a"])]) := by
    simp [ListsTexts, propertyNames?, listedNames, AreTexts]
  have hvoid : f.isEmpty = true := by
    rw [outcome_fromConfiguration _ (allHashable_of_areTexts hd)] at hf
    obtain rfl := Except.ok.inj hf
    cbv
  exact ⟨f, hf, hvoid, (hempty htexts).mp hvoid⟩

end NameFilter

end PropertyFilter
