import PropertyFilter.Proofs.Filter.Sides
import PropertyFilter.Proofs.Value.Data
import PropertyFilter.Proofs.Value.Sorting

/-!
# The plain value of a pair of filters

Global names that come from a configuration are texts, so they can be sorted, and there is always a
plain value that describes a pair of filters. It holds the names for types as they are: whether it
is plain data, and whether it can be shown, is decided by them.

## Main definitions

* `NameFilter.described`: the plain value with given global names and rows

## Main results

* `NameFilter.mem_typesOf_iff`: the rows of names that entries configure
* `NameFilter.areTexts_configured`: global names are texts, if the default ones are
* `OutputFilters.exists_snapshot`: the plain value of a pair, and what holds of it
-/

namespace PropertyFilter

/-! ## Entries with text keys -/

namespace Entries

variable {α : Type} {es : Entries α}

/-- An insertion leaves the keys as they are, or adds a new one at the end. -/
theorem keys_insert_text (key : String) (a : α) (es : Entries α) :
    (insert (.text key) a es).map Prod.fst = es.map Prod.fst ∨
      .text key ∉ es.map Prod.fst ∧
        (insert (.text key) a es).map Prod.fst = es.map Prod.fst ++ [.text key] := by
  induction es with
  | nil => exact .inr ⟨by simp, by simp⟩
  | cons e es ih =>
    obtain ⟨k, b⟩ := e
    rw [insert]
    split
    · exact .inl rfl
    · next hk =>
      rw [Value.same_text_right_iff] at hk
      rcases ih with hkeys | ⟨hnew, hkeys⟩
      · exact .inl (by rw [List.map_cons, hkeys, List.map_cons])
      · refine .inr ⟨?_, by rw [List.map_cons, hkeys, List.map_cons, List.cons_append]⟩
        rw [List.map_cons, List.mem_cons]
        rintro (h | h)
        · exact hk h.symm
        · exact hnew h

theorem nodup_keys_insert_text {key : String} {a : α} (h : (es.map Prod.fst).Nodup) :
    ((insert (.text key) a es).map Prod.fst).Nodup := by
  rcases keys_insert_text key a es with hkeys | ⟨hnew, hkeys⟩
  · rwa [hkeys]
  · rw [hkeys, List.nodup_append]
    refine ⟨h, List.nodup_singleton _, fun k hk k' hk' heq => hnew ?_⟩
    rwa [← List.mem_singleton.mp hk', ← heq]

/-- Where keys are pairwise different, a look-up finds every entry under a text. -/
theorem mem_iff_findText? (h : (es.map Prod.fst).Nodup) {key : String} {a : α} :
    (.text key, a) ∈ es ↔ findText? es key = some a := by
  induction es with
  | nil => simp [findText?]
  | cons e es ih =>
    obtain ⟨k, b⟩ := e
    rw [List.map_cons, List.nodup_cons] at h
    rw [findText?_cons, List.mem_cons, ih h.2, Prod.mk.injEq]
    by_cases hk : k = .text key
    · subst hk
      rw [if_pos (Value.same_text_right_iff.mpr rfl), Option.some.injEq]
      constructor
      · rintro (⟨-, rfl⟩ | hfound)
        · rfl
        · exact absurd (List.mem_map_of_mem ((ih h.2).mpr hfound)) h.1
      · rintro rfl
        exact .inl ⟨rfl, rfl⟩
    · rw [if_neg (mt Value.same_text_right_iff.mp hk)]
      refine ⟨fun hor => hor.resolve_left ?_, .inr⟩
      rintro ⟨rfl, -⟩
      exact hk rfl

end Entries

namespace NameFilter

variable {entries : List (Value × Value)}

/-! ## Rows of names -/

theorem typesOf_keys (entries : List (Value × Value)) :
    ((typesOf entries).map Prod.fst).Nodup ∧ AreTexts ((typesOf entries).map Prod.fst) := by
  induction entries using List.reverseRecOn with
  | nil => simp [AreTexts]
  | append_singleton entries e ih =>
    rw [typesOf_snoc]
    cases entryFate e.1 e.2 with
    | stored t names =>
      refine ⟨Entries.nodup_keys_insert_text ih.1, ?_⟩
      rw [EntryFate.store]
      rcases Entries.keys_insert_text t names (typesOf entries) with hkeys | ⟨-, hkeys⟩
      · rw [hkeys]
        exact ih.2
      · rw [hkeys, AreTexts, List.forall_mem_append]
        exact ⟨ih.2, by simp⟩
    | _ => exact ih

theorem typesOf_rows (entries : List (Value × Value)) : ∀ e ∈ typesOf entries, e.2 ≠ [] := by
  induction entries using List.reverseRecOn with
  | nil => simp
  | append_singleton entries e ih =>
    rw [typesOf_snoc]
    cases hfate : entryFate e.1 e.2 with
    | stored t names =>
      have hnames := (entryFate_eq_stored_iff.mp hfate).2.2
      have hinsert := Entries.forall_mem_insert (P := fun _ => True) (Q := (· ≠ []))
        (k := .text t) trivial hnames fun e he => ⟨trivial, ih e he⟩
      exact fun e he => (hinsert e he).2
    | _ => exact ih

/-- **The rows of names** that entries configure: for each type the last names that it has. -/
theorem mem_typesOf_iff {e : Value × List Value} :
    e ∈ typesOf entries ↔ ∃ t, e.1 = .text t ∧ ConfiguredNames t entries e.2 ∧ e.2 ≠ [] := by
  obtain ⟨hnodup, htexts⟩ := typesOf_keys entries
  constructor
  · intro he
    obtain ⟨t, ht⟩ := htexts e.1 (List.mem_map_of_mem he)
    have hfound : Entries.findText? (typesOf entries) t = some e.2 := by
      rw [← Entries.mem_iff_findText? hnodup, ← ht]
      exact he
    have hnames := configuredNames_typesOf entries t
    rw [hfound] at hnames
    exact ⟨t, ht, hnames, typesOf_rows entries e he⟩
  · rintro ⟨t, ht, hnames, hne⟩
    have hlast := configuredNames_eq_typesOf hnames
    cases hfound : Entries.findText? (typesOf entries) t with
    | none =>
      rw [hfound] at hlast
      exact absurd hlast hne
    | some names =>
      rw [hfound] at hlast
      have hmem := (Entries.mem_iff_findText? hnodup).mpr hfound
      rw [Option.getD_some] at hlast
      rwa [← hlast, ← ht] at hmem

/-- Every row of names stands in an entry. -/
theorem exists_entry_of_mem_typesOf {row : Value × List Value} (h : row ∈ typesOf entries) :
    ∃ e ∈ entries, propertyNames? e.2 = some row.2 := by
  obtain ⟨t, -, hnames, hne⟩ := mem_typesOf_iff.mp h
  exact hnames.exists_entry hne

/-! ## Plain values -/

variable {raw : Value} {defaults : List Value} {f : NameFilter}

/-- Texts may be default names. -/
theorem allHashable_of_areTexts (hd : AreTexts defaults) :
    Value.allHashable defaults = true := by
  rw [Value.allHashable_iff]
  intro v hv
  obtain ⟨s, rfl⟩ := hd v hv
  simp

theorem areTexts_listedNames (s : String) : AreTexts (listedNames s) := areTexts_map_text _

/-- Global names are texts, if the default ones are. -/
theorem areTexts_configured (raw : Value) (hd : AreTexts defaults) :
    AreTexts (configured raw defaults).globalNames := by
  intro v hv
  rcases List.mem_append.mp ((distinct_isSetOf _).sublist.subset hv) with hv | hv
  · exact hd v hv
  · obtain ⟨s, -, field, -, -, rfl⟩ := mem_globalNamesOf_iff.mp hv
    exact ⟨_, rfl⟩

/-- The plain value with given global names and rows. -/
def described (names : List String) (types : Value) : Value :=
  plainMapping [("global", .list none (names.map .text)), ("types", types)]

/-- The plain value of a filter whose global names are texts. -/
theorem exists_snapshot_of_areTexts (h : AreTexts f.globalNames) :
    ∃ names : List String, f.snapshot = .ok (described names f.typesSnapshot) ∧
      (names.map .text).Perm f.globalNames ∧ (f.globalNames.Nodup → names.Pairwise (· < ·)) := by
  obtain ⟨names, hnames⟩ := exists_eq_map_text h
  refine ⟨names.insertionSort (· < ·), ?_, ?_, fun hnodup => ?_⟩
  · rw [snapshot, sortedNames, hnames, sorted?_map_text]
    rfl
  · rw [hnames]
    exact (List.perm_insertionSort _ names).map _
  · rw [hnames] at hnodup
    exact pairwise_insertionSort_of_nodup (List.Nodup.of_map _ hnodup)

/-- The plain value of a filter that a configuration describes, and what holds of it. -/
theorem exists_snapshot (hd : AreTexts defaults)
    (hf : (fromConfiguration raw defaults).outcome = .ok f) :
    ∃ v, f.snapshot = .ok v ∧ ∀ P, Value.Hereditary P → (P v ↔
      ∀ sub t names, raw.entries? = some sub → ConfiguredNames t sub names →
        ∀ n ∈ names, P n) := by
  rw [outcome_fromConfiguration raw (allHashable_of_areTexts hd)] at hf
  obtain rfl := Except.ok.inj hf
  obtain ⟨names, hsnapshot, -, -⟩ := exists_snapshot_of_areTexts (areTexts_configured raw hd)
  refine ⟨_, hsnapshot, fun P hP => ?_⟩
  have hrows : P (described names (configured raw defaults).typesSnapshot) ↔
      ∀ e ∈ namesByTypeOf (Shape.ofValue raw), P e.1 ∧ ∀ v ∈ e.2, P v := by
    simp only [described, plainMapping, typesSnapshot, configured, List.map_cons, List.map_nil,
      hP.mapping, List.forall_mem_cons, hP.text, hP.list, List.forall_mem_map, true_and]
    exact ⟨fun h => h.2.1, fun h => ⟨fun _ _ => trivial, h, by simp⟩⟩
  rw [hrows]
  cases hraw : raw.entries? with
  | none => simp [namesByTypeOf_of_no_entries hraw]
  | some sub =>
    rw [namesByTypeOf_of_entries hraw]
    constructor
    · intro h sub' t names hsub hconfigured n hn
      obtain rfl := Option.some.inj hsub
      have hmem : (.text t, names) ∈ typesOf sub :=
        mem_typesOf_iff.mpr ⟨t, rfl, hconfigured, List.ne_nil_of_mem hn⟩
      exact (h _ hmem).2 n hn
    · intro h e he
      obtain ⟨t, ht, hconfigured, -⟩ := mem_typesOf_iff.mp he
      rw [ht]
      exact ⟨hP.text t, h sub t e.2 rfl hconfigured⟩

end NameFilter

namespace OutputFilters

variable {entries : List (Value × Value)} {extra : Side → List String} {c : OutputFilters}

/-- **The plain value of a pair of filters**: there always is one, and what holds of it is what holds
of all names that are configured for some type. -/
theorem exists_snapshot
    (hsides : ∀ s, (NameFilter.fromConfiguration (sideValue entries s)
      (s.builtIn ++ (extra s).map .text)).outcome = .ok (c.side s)) :
    ∃ v, c.snapshot = .ok v ∧ ∀ P, Value.Hereditary P → (P v ↔
      ∀ s sub t names, (sideValue entries s).entries? = some sub → ConfiguredNames t sub names →
        ∀ n ∈ names, P n) := by
  have hdefaults : ∀ s : Side, AreTexts (s.builtIn ++ (extra s).map .text) := by
    intro s
    rw [AreTexts, List.forall_mem_append, List.forall_mem_map]
    refine ⟨?_, fun n _ => ⟨n, rfl⟩⟩
    cases s <;> simp [Side.builtIn]
  have hside : ∀ s, ∃ v, (c.side s).snapshot = .ok v ∧ ∀ P, Value.Hereditary P → (P v ↔
      ∀ sub t names, (sideValue entries s).entries? = some sub → ConfiguredNames t sub names →
        ∀ n ∈ names, P n) :=
    fun s => NameFilter.exists_snapshot (hdefaults s) (hsides s)
  obtain ⟨v, hv, hvholds⟩ := hside .excludes
  obtain ⟨w, hw, hwholds⟩ := hside .includes
  have hpair : c.snapshot = .ok (NameFilter.plainMapping
      [(Side.excludes.key, v), (Side.includes.key, w)]) := by
    have hexcludes : c.excludes.snapshot = .ok v := hv
    have hincludes : c.includes.snapshot = .ok w := hw
    rw [snapshot, hexcludes, hincludes]
  refine ⟨_, hpair, fun P hP => ?_⟩
  simp only [NameFilter.plainMapping, List.map_cons, List.map_nil, hP.mapping,
    List.forall_mem_cons, hP.text, true_and, List.not_mem_nil, false_implies,
    implies_true, and_true]
  rw [hvholds P hP, hwholds P hP]
  constructor
  · rintro ⟨hexcludes, hincludes⟩ (_ | _)
    · exact hexcludes
    · exact hincludes
  · exact fun h => ⟨h .excludes, h .includes⟩

end OutputFilters

end PropertyFilter
