import PropertyFilter.Proofs.Filter.Sameness
import PropertyFilter.Proofs.Filter.Snapshot

/-!
# Lenient building

Building a pair of filters fails for one reason only: what it is built from is no mapping. Whatever
is found in a mapping is used or passed over. Either side depends on its own entry and its own extra
names, and as far as these are the same, so are the filters. For this the entries for one type have
to come in one order, since later ones take the place of earlier ones, and so have the members of
sets, since rows of names have an order.

## Main definitions

* `YieldsHashable v`: a value that yields hashable members when it is gone through
* `refusal c`: why nothing can be built from a value that is no mapping
* `OutputFilters.sideOf c s`: what one side of a value is read from
* `valuesFor t entries`: the values that stand under keys for a type
* `SameNames v w`, `SameSide v w`: values that are the same and list names in the same order

## Main results

* `NameFilter.sameItems_findText?_typesOf`: values for a type that are the same configure the same
  names
* `NameFilter.same_configured`: sides that are the same make filters that are the same
* `OutputFilters.build_lenient`: when building fails, and what it depends on
* `OutputFilters.build_reordered`: mappings that are the same, but describe different filters
-/

namespace PropertyFilter

/-! ## Values that list the same names -/

/-- Two values are the same, and list the same names in the same order if they stand for any. -/
structure SameNames (v w : Value) : Prop where
  same : v.same w = true
  inTurn : ∀ names names', propertyNames? v = some names → propertyNames? w = some names' →
    Value.sameItems names names' = true

/-- The values in entries that stand under keys for a type, in order. -/
def valuesFor (t : String) (entries : List (Value × Value)) : List Value :=
  (entries.filter fun e => typeKey? e.1 == some t).map Prod.snd

/-- Two values of a side are the same; if they are mappings, their values for any one type are the
same, and list the same names, one after the other. -/
structure SameSide (v w : Value) : Prop where
  same : v.same w = true
  values : ∀ es es', v.entries? = some es → w.entries? = some es' →
    ∀ t, List.Forall₂ SameNames (valuesFor t es) (valuesFor t es')

theorem SameNames.of_names_eq {v w : Value} (h : v.same w = true)
    (hnames : propertyNames? v = propertyNames? w) : SameNames v w := by
  refine ⟨h, fun names names' hv hw => ?_⟩
  obtain rfl : names = names' := Option.some.inj (hv.symm.trans (hnames.trans hw))
  exact Value.sameItems_refl names

theorem Shape.ofValue_of_numeric {v : Value} {x : Numeric} (h : v.numeric? = some x) :
    Shape.ofValue v = .unsupported v := by
  cases v with
  | bool | int | float => rfl
  | _ => contradiction

/-- A number stands for no names. -/
theorem propertyNames?_of_numeric {v : Value} {x : Numeric} (h : v.numeric? = some x) :
    propertyNames? v = none := by
  cases v with
  | bool | int | float => rfl
  | _ => contradiction

/-- Values that are the same both stand for names, or neither does. -/
theorem propertyNames?_isSome_of_same {v w : Value} (h : v.same w = true) :
    (propertyNames? v).isSome = (propertyNames? w).isSome := by
  cases Value.sameAs_of_same h with
  | number hv hw => rw [propertyNames?_of_numeric hv, propertyNames?_of_numeric hw]
  | _ => rfl

/-! ## The last names for a type -/

/-- The names that are left when a value comes in for a type: those that it stands for, if any. -/
def lastNames (names : List Value) (v : Value) : List Value :=
  match propertyNames? v with
  | none | some [] => names
  | some (n :: ns) => n :: ns

theorem sameItems_lastNames {names names' : List Value} {v w : Value}
    (hnames : Value.sameItems names names' = true) (h : SameNames v w) :
    Value.sameItems (lastNames names v) (lastNames names' w) = true := by
  have hsome := propertyNames?_isSome_of_same h.same
  unfold lastNames
  cases hv : propertyNames? v with
  | none =>
    rw [hv, eq_comm, Option.isSome_none, Option.isSome_eq_false_iff,
      Option.isNone_iff_eq_none] at hsome
    rw [hsome]
    exact hnames
  | some listed =>
    rw [hv, eq_comm, Option.isSome_some, Option.isSome_iff_exists] at hsome
    obtain ⟨listed', hw⟩ := hsome
    have hlisted := h.inTurn _ _ hv hw
    rw [hw]
    cases listed with
    | nil =>
      obtain rfl := (Value.sameItems_nil_iff hlisted).mp rfl
      exact hnames
    | cons n ns =>
      obtain ⟨n', ns', rfl⟩ :=
        List.exists_cons_of_ne_nil (mt (Value.sameItems_nil_iff hlisted).mpr (List.cons_ne_nil n ns))
      exact hlisted

namespace NameFilter

/-- The pass over entries leaves for a type what the values for it leave. -/
theorem findText?_typesOf_eq_foldl (entries : List (Value × Value)) (t : String) :
    (Entries.findText? (typesOf entries) t).getD [] =
      (valuesFor t entries).foldl lastNames [] := by
  -- by the last entry, which comes in last in both passes
  induction entries using List.reverseRecOn with
  | nil => rfl
  | append_singleton entries e ih =>
    obtain ⟨key, value⟩ := e
    simp only [valuesFor, List.filter_append, List.map_append, List.foldl_append] at ih ⊢
    rw [← ih]
    by_cases hkey : typeKey? key = some t
    · simp only [List.filter_cons, hkey, beq_self_eq_true, if_true, List.filter_nil,
        List.map_cons, List.map_nil, List.foldl_cons, List.foldl_nil, lastNames]
      cases hvalue : propertyNames? value with
      | none =>
        have hnot : ¬ HasNames t (key, value) := by simp [HasNames, hvalue]
        rw [findText?_typesOf_snoc_of_not hnot]
      | some names =>
        cases names with
        | nil =>
          have hnot : ¬ HasNames t (key, value) := by simp [HasNames, hvalue]
          rw [findText?_typesOf_snoc_of_not hnot]
        | cons n ns =>
          rw [findText?_typesOf_snoc_of_names hkey hvalue (List.cons_ne_nil n ns)]
          rfl
    · have hnot : ¬ HasNames t (key, value) := fun h => hkey h.1
      rw [findText?_typesOf_snoc_of_not hnot]
      simp [hkey]

variable {es es' : List (Value × Value)}

/-- **Values for a type that are the same** configure the same names for it. -/
theorem sameItems_findText?_typesOf {t : String}
    (h : List.Forall₂ SameNames (valuesFor t es) (valuesFor t es')) :
    Value.sameItems ((Entries.findText? (typesOf es) t).getD [])
      ((Entries.findText? (typesOf es') t).getD []) = true := by
  -- what the passes have left so far stays the same, value by value
  have hpass : ∀ {vs ws : List Value}, List.Forall₂ SameNames vs ws →
      ∀ {names names' : List Value}, Value.sameItems names names' = true →
        Value.sameItems (vs.foldl lastNames names) (ws.foldl lastNames names') = true := by
    intro vs ws hvs
    induction hvs with
    | nil => exact id
    | cons hv _ ih => exact fun hnames => ih (sameItems_lastNames hnames hv)
  rw [findText?_typesOf_eq_foldl, findText?_typesOf_eq_foldl]
  exact hpass h (Value.sameItems_refl [])

/-! ## Sides -/

theorem mem_keys_typesOf_iff {key : Value} :
    key ∈ (typesOf es).map Prod.fst ↔
      ∃ t, key = .text t ∧ (Entries.findText? (typesOf es) t).getD [] ≠ [] := by
  rw [List.mem_map]
  constructor
  · rintro ⟨e, he, rfl⟩
    obtain ⟨t, ht, hnames, hne⟩ := mem_typesOf_iff.mp he
    exact ⟨t, ht, configuredNames_eq_typesOf hnames ▸ hne⟩
  · rintro ⟨t, rfl, hne⟩
    have hrow : (.text t, (Entries.findText? (typesOf es) t).getD []) ∈ typesOf es :=
      mem_typesOf_iff.mpr ⟨t, rfl, configuredNames_typesOf es t, hne⟩
    exact ⟨_, hrow, rfl⟩

/-- Entries that configure the same names for every type make rows that are the same. -/
theorem rows_of_sameItems
    (h : ∀ t, Value.sameItems ((Entries.findText? (typesOf es) t).getD [])
      ((Entries.findText? (typesOf es') t).getD []) = true) :
    RowsAlike (typesOf es) (typesOf es') := by
  have hnil : ∀ t, (Entries.findText? (typesOf es) t).getD [] = [] ↔
      (Entries.findText? (typesOf es') t).getD [] = [] := fun t => Value.sameItems_nil_iff (h t)
  constructor
  · have hkeys := (List.perm_ext_iff_of_nodup (typesOf_keys es).1 (typesOf_keys es').1).mpr
      fun key => by rw [mem_keys_typesOf_iff, mem_keys_typesOf_iff]; simp only [ne_eq, hnil]
    simpa using hkeys.length_eq
  · intro e he
    obtain ⟨t, ht, hnames, hne⟩ := mem_typesOf_iff.mp he
    have hlast := configuredNames_eq_typesOf hnames
    have hne' := mt (hnil t).mpr (hlast ▸ hne)
    have hrow : (.text t, (Entries.findText? (typesOf es') t).getD []) ∈ typesOf es' :=
      mem_typesOf_iff.mpr ⟨t, rfl, configuredNames_typesOf es' t, hne'⟩
    exact ⟨_, hrow, ht ▸ Value.same_refl (.text t), hlast ▸ h t⟩

/-- Where the entries of a side are the same, so are the rows. -/
theorem rows_of_sameSide {raw raw' : Value} (h : SameSide raw raw') :
    RowsAlike (namesByTypeOf (Shape.ofValue raw)) (namesByTypeOf (Shape.ofValue raw')) := by
  cases Value.sameAs_of_same h.same with
  | mapping => exact rows_of_sameItems fun t => sameItems_findText?_typesOf (h.values _ _ rfl rfl t)
  | number hraw hraw' =>
    rw [Shape.ofValue_of_numeric hraw, Shape.ofValue_of_numeric hraw']
    exact .refl []
  | _ => exact .refl []

theorem globalNamesOf_of_same {raw raw' : Value} (h : raw.same raw' = true) :
    globalNamesOf (Shape.ofValue raw) = globalNamesOf (Shape.ofValue raw') := by
  cases Value.sameAs_of_same h with
  | number hraw hraw' =>
    rw [Shape.ofValue_of_numeric hraw, Shape.ofValue_of_numeric hraw']
    rfl
  | _ => rfl

theorem isProper_globalNamesOf (shape : Shape) : ∀ v ∈ globalNamesOf shape, v.IsProper := by
  cases shape <;> simp [globalNamesOf, listedNames]

/-- **Sides that are the same make filters that are the same**, with extra names that are the same,
in any order. -/
theorem same_configured {raw raw' : Value} (h : SameSide raw raw') {names names' : List Value}
    (hproper : ∀ v ∈ names, v.IsProper) (hproper' : ∀ v ∈ names', v.IsProper)
    (hnames : Value.SameMembers names names') :
    (configured raw names).same (configured raw' names') = true := by
  have hlisted := isProper_globalNamesOf (Shape.ofValue raw)
  have hglobal := distinct_same (List.forall_mem_append.mpr ⟨hproper, hlisted⟩)
    (List.forall_mem_append.mpr ⟨hproper', hlisted⟩) (hnames.append (.refl _))
  rw [same_iff, configured, configured, ← globalNamesOf_of_same h.same]
  exact ⟨hglobal, rows_of_sameSide h⟩

/-- Names that match on any owner match on every owner, and on every type. -/
theorem matches_of_mem_globalNames {f : NameFilter} {n : String} (h : .text n ∈ f.globalNames)
    (v : Value) :
    f.matchesOwner v (.text n) = .ok true ∧ f.matchesType v (.text n) = .ok true := by
  have hmember : (Value.text n).memberOf f.globalNames = true := Value.text_memberOf_iff.mpr h
  simp [matchesOwner, matchesType, matchesAmong_text, hmember]

end NameFilter

/-! ## Building -/

/-- A value yields hashable members when it is gone through. -/
def YieldsHashable (v : Value) : Prop :=
  ∃ members, v.members? = some members ∧ Value.allHashable members = true

/-- Why nothing can be built from a value that is no mapping. -/
def refusal : Value → ArgumentError
  | .null => .missing
  | v => .notAMapping v.typeName

namespace OutputFilters

/-- What one side of a value is read from; there is nothing to read in a value that is no
mapping. -/
def sideOf (c : Value) (s : Side) : Value := sideValue (c.entries?.getD []) s

variable {c c' : Value} {extra extra' : Side → Value} {names : Side → List Value}
  {filters filters' : OutputFilters}

theorem outcome_build (hextra : ∀ s, (extra s).members? = some (names s))
    (hnames : ∀ s, Value.allHashable (names s) = true) :
    (build c (extra .excludes) (extra .includes)).outcome =
      match c.entries? with
      | none => .error (.argument (refusal c))
      | some entries => .ok (configured entries names) := by
  cases c with
  | mapping label view entries =>
    rw [build_of_mapping label view entries extra names hextra hnames]
    rfl
  | _ => rfl

/-- A pair that has been built, side by side. -/
theorem exists_side_of_build (hextra : ∀ s, YieldsHashable (extra s))
    (h : (build c (extra .excludes) (extra .includes)).outcome = .ok filters) (s : Side) :
    ∃ names, (extra s).members? = some names ∧
      filters.side s = .configured (sideOf c s) (s.builtIn ++ names) := by
  choose names hmembers hnames using hextra
  rw [outcome_build hmembers hnames] at h
  unfold sideOf
  cases hentries : c.entries? with
  | none =>
    rw [hentries] at h
    contradiction
  | some entries =>
    rw [hentries] at h
    obtain rfl := Except.ok.inj h
    exact ⟨names s, hmembers s, side_configured s⟩

theorem build_eq_error_iff (hextra : ∀ s, YieldsHashable (extra s)) {e : BuildError} :
    (build c (extra .excludes) (extra .includes)).outcome = .error e ↔
      c.entries? = none ∧ e = .argument (refusal c) := by
  choose names hmembers hnames using hextra
  rw [outcome_build hmembers hnames]
  cases c.entries? with
  | none => simp [eq_comm]
  | some entries => simp

/-- Built-in names are excluded on every owner, and on every type. -/
theorem matches_builtIn (hextra : ∀ s, YieldsHashable (extra s))
    (h : (build c (extra .excludes) (extra .includes)).outcome = .ok filters) {n : String}
    (hn : n ∈ ["class", "metaClass", "declaringClass"]) (v : Value) :
    filters.excludes.matchesOwner v (.text n) = .ok true ∧
      filters.excludes.matchesType v (.text n) = .ok true := by
  obtain ⟨names, -, hside⟩ := exists_side_of_build hextra h .excludes
  refine NameFilter.matches_of_mem_globalNames (f := filters.side .excludes) ?_ v
  rw [hside, NameFilter.configured, (distinct_isSetOf _).text_mem_iff]
  have hbuiltIn : .text n ∈ Side.excludes.builtIn := Side.text_mem_builtIn_iff.mpr ⟨rfl, hn⟩
  exact List.mem_append_left _ (List.mem_append_left _ hbuiltIn)

/-- Either side depends on its own entry and its own extra names only. -/
theorem side_eq_of_build (hextra : ∀ s, YieldsHashable (extra s))
    (hextra' : ∀ s, YieldsHashable (extra' s))
    (h : (build c (extra .excludes) (extra .includes)).outcome = .ok filters)
    (h' : (build c' (extra' .excludes) (extra' .includes)).outcome = .ok filters') {s : Side}
    (hside : sideOf c s = sideOf c' s) (hs : extra s = extra' s) :
    filters.side s = filters'.side s := by
  obtain ⟨names, hnames, hfilter⟩ := exists_side_of_build hextra h s
  obtain ⟨names', hnames', hfilter'⟩ := exists_side_of_build hextra' h' s
  have heq : names = names' := Option.some.inj (hnames.symm.trans (hs ▸ hnames'))
  rw [hfilter, hfilter', hside, heq]

/-- Sides are built alike from entries and extra names that are the same. -/
theorem side_same_of_build (hextra : ∀ s, YieldsHashable (extra s))
    (hextra' : ∀ s, YieldsHashable (extra' s))
    (h : (build c (extra .excludes) (extra .includes)).outcome = .ok filters)
    (h' : (build c' (extra' .excludes) (extra' .includes)).outcome = .ok filters') {s : Side}
    (hside : SameSide (sideOf c s) (sideOf c' s)) (hs : (extra s).same (extra' s) = true)
    (hproper : (extra s).IsProper) (hproper' : (extra' s).IsProper) :
    (filters.side s).same (filters'.side s) = true := by
  obtain ⟨names, hnames, hfilter⟩ := exists_side_of_build hextra h s
  obtain ⟨names', hnames', hfilter'⟩ := exists_side_of_build hextra' h' s
  have hbuiltIn : ∀ v ∈ s.builtIn, v.IsProper := by
    cases s <;> simp [Side.builtIn]
  rw [hfilter, hfilter']
  exact NameFilter.same_configured hside
    (List.forall_mem_append.mpr ⟨hbuiltIn, hproper.of_mem_members hnames⟩)
    (List.forall_mem_append.mpr ⟨hbuiltIn, hproper'.of_mem_members hnames'⟩)
    (.append (.refl _) (Value.same_members hproper hproper' hs hnames hnames'))

/-- **Lenient building.** With extra names that are hashable, building a pair fails exactly if what
it is built from is no mapping, whatever is found in a mapping, and for no other reason than that.
Every pair excludes the built-in names, on every owner and every type. Of two pairs, sides with one
entry and one value of extra names are equal, whatever else there is; and sides are the same if
their entries are, and for any one type list the same names in the same order, and their extra names
are the same. -/
theorem build_lenient (c : Value) {extra : Side → Value}
    (hextra : ∀ s, YieldsHashable (extra s)) :
    (∀ e, (build c (extra .excludes) (extra .includes)).outcome = .error e ↔
      c.entries? = none ∧ e = .argument (refusal c)) ∧
    ∀ filters, (build c (extra .excludes) (extra .includes)).outcome = .ok filters →
      (∀ n ∈ ["class", "metaClass", "declaringClass"], ∀ v,
        filters.excludes.matchesOwner v (.text n) = .ok true ∧
          filters.excludes.matchesType v (.text n) = .ok true) ∧
      ∀ (c' : Value) (extra' : Side → Value) (filters' : OutputFilters),
        (∀ s, YieldsHashable (extra' s)) →
        (build c' (extra' .excludes) (extra' .includes)).outcome = .ok filters' →
        ∀ s, (sideOf c s = sideOf c' s → extra s = extra' s →
            filters.side s = filters'.side s) ∧
          (SameSide (sideOf c s) (sideOf c' s) → (extra s).same (extra' s) = true →
            (extra s).IsProper → (extra' s).IsProper →
            (filters.side s).same (filters'.side s) = true) := by
  refine ⟨fun e => build_eq_error_iff hextra, fun filters h => ⟨?_, ?_⟩⟩
  · exact fun n hn v => matches_builtIn hextra h hn v
  · intro c' extra' filters' hextra' h' s
    exact ⟨side_eq_of_build hextra hextra' h h', side_same_of_build hextra hextra' h h'⟩

/-- A configuration that excludes names by type, with another entry in front. -/
def excluding (other : Value × Value) (entries : List (Value × Value)) : Value :=
  .mapping none false [other, (.text "excludes", .mapping none false entries)]

theorem sideOf_excluding {other : Value × Value} {entries : List (Value × Value)}
    (h : other.1.same (.text "excludes") = false) :
    sideOf (excluding other entries) .excludes = .mapping none false entries := by
  obtain ⟨key, value⟩ := other
  simp [sideOf, sideValue, excluding, Entries.findText?_cons, Side.key, h]

theorem outcome_build_excluding (other : Value × Value) (entries : List (Value × Value))
    (extra : Value) {names : List Value} (hextra : extra.members? = some names)
    (hnames : Value.allHashable names = true) :
    (build (excluding other entries) extra extra).outcome =
      .ok (configured [other, (.text "excludes", .mapping none false entries)] fun _ => names) :=
  congrArg Noticed.outcome
    (build_of_mapping none false _ (fun _ => extra) _ (fun _ => hextra) fun _ => hnames)

/-- An unknown key, the order of entries for different types and the order of extra names make no
difference, and neither do kinds of values that are not told apart. Nothing of it is refused. -/
theorem build_lenient_unordered :
    ∃ filters filters' : OutputFilters,
      (build (excluding (.text "x", .null)
          [(.text "User", .set none false [.text "a", .int 7]), (.int 1, .octets false [0])])
        (.set none false [.text "x", .text "y"]) (.set none false [.text "x", .text "y"])).outcome =
          .ok filters ∧
      (build (excluding (.null, .text "y")
          [(.bool true, .octets true [0]), (.text "User", .set none true [.text "a", .int 7])])
        (.set none true [.text "y", .text "x"]) (.set none true [.text "y", .text "x"])).outcome =
          .ok filters' ∧
      filters.excludes.same filters'.excludes = true ∧
      filters.excludes.matchesOwner (.text "") (.text "class") = .ok true ∧
      (build .null (.set none false [.text "x", .text "y"])
        (.set none false [.text "x", .text "y"])).outcome = .error (.argument .missing) := by
  have hextra : ∀ _ : Side, YieldsHashable (.set none false [.text "x", .text "y"]) :=
    fun _ => ⟨_, rfl, by decide⟩
  have hextra' : ∀ _ : Side, YieldsHashable (.set none true [.text "y", .text "x"]) :=
    fun _ => ⟨_, rfl, by decide⟩
  have hbuild := outcome_build_excluding (.text "x", .null)
    [(.text "User", .set none false [.text "a", .int 7]), (.int 1, .octets false [0])]
    (.set none false [.text "x", .text "y"]) rfl (by decide)
  have hbuild' := outcome_build_excluding (.null, .text "y")
    [(.bool true, .octets true [0]), (.text "User", .set none true [.text "a", .int 7])]
    (.set none true [.text "y", .text "x"]) rfl (by decide)
  have hone : (Value.int 1).same (.bool true) = true := by
    rw [Value.same_of_numeric _ rfl, Value.numeric?, if_pos rfl, Int.one_mul]
    exact beq_self_eq_true _
  have huser : SameNames (.set none false [.text "a", .int 7])
      (.set none true [.text "a", .int 7]) :=
    .of_names_eq (by simpa only [Value.same] using Value.same_refl (.set none true _)) rfl
  have hoctets : (Value.octets false [0]).same (.octets true [0]) = true := by cbv
  have hside : SameSide
      (.mapping none false
        [(.text "User", .set none false [.text "a", .int 7]), (.int 1, .octets false [0])])
      (.mapping none false
        [(.bool true, .octets true [0]), (.text "User", .set none true [.text "a", .int 7])]) := by
    refine ⟨?_, ?_⟩
    · simp only [Value.same, Bool.and_eq_true, List.length_cons, beq_self_eq_true, true_and]
      rw [Value.allEntriesIn_iff, List.forall_mem_cons, List.forall_mem_singleton]
      exact ⟨⟨(.text "User", .set none true _), by simp, Value.same_refl _, huser.same⟩,
        ⟨(.bool true, .octets true _), by simp, hone, hoctets⟩⟩
    · rintro _ _ ⟨⟩ ⟨⟩ t
      by_cases ht : "User" = t
      · simpa [valuesFor, typeKey?, ht] using huser
      · simp [valuesFor, typeKey?, ht]
  obtain ⟨-, hlenient⟩ := build_lenient _ hextra
  obtain ⟨hbuiltIn, hsides⟩ := hlenient _ hbuild
  refine ⟨_, _, hbuild, hbuild', (hsides _ _ _ hextra' hbuild' .excludes).2 ?_ ?_ ?_ ?_,
    (hbuiltIn "class" (by decide) (.text "")).1, ?_⟩
  · rw [sideOf_excluding (by cbv), sideOf_excluding (by cbv)]
    exact hside
  · cbv
  · exact Value.isProper_set_iff.mpr ⟨by simp, by simp⟩
  · exact Value.isProper_set_iff.mpr ⟨by simp, by simp⟩
  · exact ((build_lenient .null hextra).1 _).mpr ⟨rfl, rfl⟩

/-- Mappings that are the same may describe different filters: when two of the keys stand for one
type, the later of their entries counts. -/
theorem build_reordered :
    (excluding (.text "x", .null) [(.text "User", .text "a"), (.type "User" 0, .text "b")]).same
        (excluding (.text "x", .null) [(.type "User" 0, .text "b"), (.text "User", .text "a")]) =
      true ∧
    ∃ filters filters' : OutputFilters,
      (build (excluding (.text "x", .null) [(.text "User", .text "a"), (.type "User" 0, .text "b")])
        noExtras noExtras).outcome = .ok filters ∧
      (build (excluding (.text "x", .null) [(.type "User" 0, .text "b"), (.text "User", .text "a")])
        noExtras noExtras).outcome = .ok filters' ∧
      filters.excludes.same filters'.excludes = false := by
  refine ⟨?_, _, _, outcome_build_excluding _ _ _ rfl rfl,
    outcome_build_excluding _ _ _ rfl rfl, ?_⟩
  · cbv
  · cbv

end OutputFilters

end PropertyFilter
