import PropertyFilter.Proofs.Filter.Snapshot
import PropertyFilter.Proofs.Session.Labels

/-!
# Filters are made of copies

A filter copies the rows of names out of the values that it is made from, and its global names are
hashable. So a change to a shared collection reaches a filter at most inside one of its names by
type.

## Main definitions

* `NameFilter.Fits`, `OutputFilters.Fits`: the labels in a filter, or in a pair, are as `k` says

## Main results

* `NameFilter.Fits.update`: a change to a shared collection keeps the kinds of labels in a filter
* `NameFilter.fits_of_fromConfiguration`, `NameFilter.fits_of_ofParts`,
  `OutputFilters.fits_of_build`: what is made from values that fit fits
-/

namespace PropertyFilter

variable {k k' : LabelKinds} {l : Label} {new : Value}

/-! ## Parts of values -/

namespace Value

theorem Fits.members? {v : Value} (hv : v.Fits k) {vs : List Value} (h : v.members? = some vs) :
    ∀ x ∈ vs, x.Fits k := by
  cases v with
  | list label items | tuple label items =>
    obtain rfl := Option.some.inj h
    rw [Fits] at hv
    exact fitItems_iff.mp hv.2
  | set label frozen items =>
    obtain rfl := Option.some.inj h
    rw [Fits] at hv
    exact fitItems_iff.mp hv.2.2
  | mapping label view entries =>
    obtain rfl := Option.some.inj h
    rw [Fits] at hv
    intro x hx
    obtain ⟨e, he, rfl⟩ := List.mem_map.mp hx
    exact (fitEntries_iff.mp hv.2 e he).1
  | text s | octets growable bs | range a b c =>
    obtain rfl := Option.some.inj h
    intro x hx
    obtain ⟨y, -, rfl⟩ := List.mem_map.mp hx
    simp [Fits]
  | _ => contradiction

theorem Fits.entries? {v : Value} (hv : v.Fits k) {es : List (Value × Value)}
    (h : v.entries? = some es) : ∀ e ∈ es, e.1.Fits k ∧ e.2.Fits k := by
  cases v with
  | mapping label view entries =>
    obtain rfl := Option.some.inj h
    rw [Fits] at hv
    exact fitEntries_iff.mp hv.2
  | _ => contradiction

theorem fits_of_mem_propertyNames? {v : Value} (hv : v.Fits k) {names : List Value}
    (h : propertyNames? v = some names) : ∀ n ∈ names, n.Fits k := by
  cases v with
  | text s =>
    obtain rfl := Option.some.inj h
    intro n hn
    obtain ⟨name, -, rfl⟩ := List.mem_map.mp hn
    simp [Fits]
  | list label items | tuple label items | set label frozen items | range a b c =>
    exact hv.members? h
  | _ => contradiction

end Value

theorem forall_mem_distinct {P : Value → Prop} {vs : List Value} (h : ∀ v ∈ vs, P v) :
    ∀ v ∈ distinct vs, P v := fun v hv => h v ((distinct_isSetOf vs).sublist.subset hv)

/-! ## Filters -/

namespace NameFilter

variable {f : NameFilter}

/-- The labels in the names of a filter are as `k` says, and its global names are hashable. -/
structure Fits (k : LabelKinds) (f : NameFilter) : Prop where
  hashable : Value.allHashable f.globalNames = true
  globalNames : ∀ v ∈ f.globalNames, v.Fits k
  namesByType : ∀ e ∈ f.namesByType, ∀ v ∈ e.2, v.Fits k

theorem Fits.mono (h : f.Fits k) (hk : k.Extends k') : f.Fits k' :=
  ⟨h.hashable, fun v hv => (h.globalNames v hv).mono hk,
    fun e he v hv => (h.namesByType e he v hv).mono hk⟩

/-- A change does not reach global names. -/
theorem Fits.updateItems_globalNames (h : f.Fits k) (hl : k l ≠ some .fixed) :
    Value.updateItems l new f.globalNames = f.globalNames :=
  Value.updateItems_of_allHashable hl (Value.fitItems_iff.mpr h.globalNames) h.hashable

theorem Fits.update (h : f.Fits k) (hl : k l ≠ some .fixed) (hnew : new.Fits k) :
    (f.update l new).Fits k := by
  refine ⟨?_, ?_, ?_⟩
  · rw [NameFilter.update, h.updateItems_globalNames hl]
    exact h.hashable
  · rw [NameFilter.update, h.updateItems_globalNames hl]
    exact h.globalNames
  · intro e he
    obtain ⟨e', he', rfl⟩ := List.mem_map.mp he
    exact Value.fitItems_iff.mp
      (Value.FitItems.update hl hnew (Value.fitItems_iff.mpr (h.namesByType e' he')))

theorem fits_of_make {names : List Value} {types : Entries (List Value)}
    (h : make names types = .ok f) (hnames : ∀ v ∈ names, v.Fits k)
    (htypes : ∀ e ∈ types, ∀ v ∈ e.2, v.Fits k) : f.Fits k := by
  unfold make at h
  split at h
  · next hhashable =>
    obtain rfl := Except.ok.inj h
    rw [Value.allHashable_iff] at hhashable
    exact ⟨Value.allHashable_iff.mpr (forall_mem_distinct hhashable), forall_mem_distinct hnames,
      htypes⟩
  · contradiction

theorem fits_of_mem_typesOf {entries : List (Value × Value)} (h : ∀ e ∈ entries, e.2.Fits k) :
    ∀ row ∈ typesOf entries, ∀ v ∈ row.2, v.Fits k := by
  intro row hrow
  obtain ⟨e, he, hnames⟩ := exists_entry_of_mem_typesOf hrow
  exact Value.fits_of_mem_propertyNames? (h e he) hnames

/-- **A filter that a value configures** copies names out of the value. -/
theorem fits_of_fromConfiguration {raw : Value} {defaults : List Value} (hraw : raw.Fits k)
    (hdefaults : ∀ v ∈ defaults, v.Fits k) (h : (fromConfiguration raw defaults).outcome = .ok f) :
    f.Fits k := by
  refine fits_of_make h ?_ ?_
  · rw [List.forall_mem_append]
    refine ⟨hdefaults, fun v hv => ?_⟩
    obtain ⟨s, -, field, -, -, rfl⟩ := mem_globalNamesOf_iff.mp hv
    simp [Value.Fits]
  · cases hentries : raw.entries? with
    | none => simp [namesByTypeOf_of_no_entries hentries]
    | some entries =>
      rw [namesByTypeOf_of_entries hentries]
      exact fits_of_mem_typesOf fun e he => (hraw.entries? hentries e he).2

theorem fits_of_copyRows {entries : List (Value × Value)} {rows : Entries (List Value)}
    (hentries : ∀ e ∈ entries, e.1.Fits k ∧ e.2.Fits k) (h : copyRows entries = .ok rows) :
    ∀ e ∈ rows, ∀ v ∈ e.2, v.Fits k := by
  induction entries generalizing rows with
  | nil =>
    obtain rfl := Except.ok.inj h
    simp
  | cons e entries ih =>
    rw [List.forall_mem_cons] at hentries
    rw [copyRows] at h
    split at h
    · contradiction
    · next names hnames =>
      split at h
      · next rest hrest =>
        obtain rfl := Except.ok.inj h
        rw [List.forall_mem_cons]
        exact ⟨hentries.1.2.members? hnames, ih hentries.2 hrest⟩
      · contradiction

/-- **A filter that is made from parts** copies their members. -/
theorem fits_of_ofParts {globalNames namesByType : Option Value}
    (hglobal : ∀ v ∈ globalNames, v.Fits k) (htypes : ∀ v ∈ namesByType, v.Fits k)
    (h : ofParts globalNames namesByType = .ok f) : f.Fits k := by
  unfold ofParts at h
  split at h
  · contradiction
  next names hnames =>
  split at h
  · contradiction
  split at h
  · contradiction
  next entries hentries =>
  split at h
  · contradiction
  next rows hrows =>
  refine fits_of_make h ?_ (fits_of_copyRows ?_ hrows)
  · cases globalNames with
    | none =>
      obtain rfl := Option.some.inj hnames
      simp
    | some v => exact (hglobal v rfl).members? hnames
  · cases namesByType with
    | none =>
      obtain rfl := Option.some.inj hentries
      simp
    | some v => exact (htypes v rfl).entries? hentries

end NameFilter

namespace OutputFilters

variable {c : OutputFilters}

/-- Both filters of a pair fit. -/
structure Fits (k : LabelKinds) (c : OutputFilters) : Prop where
  excludes : c.excludes.Fits k
  includes : c.includes.Fits k

theorem Fits.side (h : c.Fits k) (s : Side) : (c.side s).Fits k := by
  cases s with
  | excludes => exact h.excludes
  | includes => exact h.includes

theorem fits_of_buildSide {entries : List (Value × Value)}
    (hentries : ∀ e ∈ entries, e.1.Fits k ∧ e.2.Fits k) {extra : Value} (hextra : extra.Fits k)
    {s : Side} {f : NameFilter} (h : (buildSide entries s extra).outcome = .ok f) : f.Fits k := by
  have hside : (sideValue entries s).Fits k := by
    rcases sideValue_mem entries s with hnone | ⟨e, he, heq⟩
    · rw [hnone]
      simp [Value.Fits]
    · rw [heq]
      exact (hentries e he).2
  obtain ⟨names, hnames, hf⟩ := exists_fromConfiguration_of_buildSide h
  refine NameFilter.fits_of_fromConfiguration hside ?_ hf
  rw [List.forall_mem_append]
  refine ⟨?_, hextra.members? hnames⟩
  cases s <;> simp [Side.builtIn, Value.Fits]

/-- **A pair that a value configures** copies names out of the value and of the extra names. -/
theorem fits_of_build {configuration extraExcludes extraIncludes : Value}
    (hconfiguration : configuration.Fits k) (hexcludes : extraExcludes.Fits k)
    (hincludes : extraIncludes.Fits k)
    (h : (build configuration extraExcludes extraIncludes).outcome = .ok c) : c.Fits k := by
  obtain ⟨entries, hentries, hmade, hmade'⟩ := exists_buildSide_of_build h
  have hfits := hconfiguration.entries? hentries
  exact ⟨fits_of_buildSide hfits hexcludes hmade, fits_of_buildSide hfits hincludes hmade'⟩

end OutputFilters

end PropertyFilter
