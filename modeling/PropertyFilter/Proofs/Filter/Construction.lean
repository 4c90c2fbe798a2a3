import PropertyFilter.Filter.NameFilter
import PropertyFilter.Proofs.Value.Sameness

/-!
# The filter that a configuration value describes

A name filter is made by going through the entries of a mapping and storing names one entry after
the other. What it answers can be said without that pass: its global names are a set, and its names
for a type are those of the last entry that has any for the type.

## Main definitions

* `HasNames t e`: the entry `e` has names for the type `t`
* `ConfiguredNames t entries names`: the last entry with names for `t` lists `names`
* `NameFilter.IsConfiguredBy`: a filter is what a value, together with default names, describes
* `NameFilter.configured`: that filter, as it is put together

## Main results

* `configuredNames_typesOf`: the pass over the entries finds the last names of every type
* `isConfiguredBy_fromConfiguration`: every value describes a filter, if the defaults are hashable
* `matchesType_text_iff`, `matchesOwner_text_iff`: queries never fail on a text, and are membership
* `fromConfiguration_reference`: construction and queries together
-/

namespace PropertyFilter

open Text (fields trim)

/-! ## Listed names -/

/-- A text lists the fields between its commas that hold more than blanks, without the blanks at
their ends. -/
theorem mem_listedNames_iff {s : String} {v : Value} :
    v ∈ listedNames s ↔ ∃ field ∈ fields Text.NameList.separator s.toList,
      trim field ≠ [] ∧ v = .text (String.ofList (trim field)) := by
  simp only [listedNames, Text.NameList.read, Text.NameList.ofChars, List.mem_map, List.mem_filter]
  constructor
  · rintro ⟨_, ⟨name, ⟨⟨field, hf, rfl⟩, hne⟩, rfl⟩, rfl⟩
    exact ⟨field, hf, by simpa using hne, rfl⟩
  · rintro ⟨field, hf, hne, rfl⟩
    exact ⟨_, ⟨_, ⟨⟨field, hf, rfl⟩, by simpa using hne⟩, rfl⟩, rfl⟩

theorem allHashable_listedNames (s : String) : Value.allHashable (listedNames s) = true :=
  Value.allHashable_map_text _

/-! ## The last names of a type -/

/-- An entry has names for a type: its key stands for the type, and its value for at least one
name. -/
def HasNames (t : String) (e : Value × Value) : Prop :=
  typeKey? e.1 = some t ∧ ∃ names, propertyNames? e.2 = some names ∧ names ≠ []

/-- The names that entries configure for a type: those of the last entry that has names for it, and
none if no entry has. -/
inductive ConfiguredNames (t : String) : List (Value × Value) → List Value → Prop where
  | last {before after : List (Value × Value)} {key value : Value} {names : List Value}
      (hkey : typeKey? key = some t) (hvalue : propertyNames? value = some names)
      (hnames : names ≠ []) (hafter : ∀ e ∈ after, ¬ HasNames t e) :
      ConfiguredNames t (before ++ (key, value) :: after) names
  | none {entries : List (Value × Value)} (h : ∀ e ∈ entries, ¬ HasNames t e) :
      ConfiguredNames t entries []

/-- An entry without names for the type changes nothing. -/
theorem ConfiguredNames.snoc {t : String} {entries : List (Value × Value)} {names : List Value}
    (h : ConfiguredNames t entries names) {e : Value × Value} (he : ¬ HasNames t e) :
    ConfiguredNames t (entries ++ [e]) names := by
  cases h with
  | last hkey hvalue hnames hafter =>
    rw [List.append_assoc, List.cons_append]
    refine .last hkey hvalue hnames fun e' he' => ?_
    rcases List.mem_append.mp he' with h' | h'
    · exact hafter e' h'
    · exact List.mem_singleton.mp h' ▸ he
  | none h =>
    refine .none fun e' he' => ?_
    rcases List.mem_append.mp he' with h' | h'
    · exact h e' h'
    · exact List.mem_singleton.mp h' ▸ he

/-- Names that are configured stand in an entry. -/
theorem ConfiguredNames.exists_entry {t : String} {entries : List (Value × Value)}
    {names : List Value} (h : ConfiguredNames t entries names) (hne : names ≠ []) :
    ∃ e ∈ entries, propertyNames? e.2 = some names := by
  cases h with
  | @last before after key value _ hkey hvalue hnames hafter =>
    exact ⟨(key, value), by simp, hvalue⟩
  | none h => contradiction

namespace NameFilter

/-! ## One entry -/

/-- An entry is stored exactly if it has names. -/
theorem entryFate_eq_stored_iff {key value : Value} {t : String} {names : List Value} :
    entryFate key value = .stored t names ↔
      typeKey? key = some t ∧ propertyNames? value = some names ∧ names ≠ [] := by
  unfold entryFate
  cases typeKey? key with
  | none => simp
  | some u =>
    rcases propertyNames? value with _ | _ | ⟨n, ns⟩
    · simp
    · simp +contextual [eq_comm]
    · simp only [EntryFate.stored.injEq, Option.some.injEq]
      constructor
      · rintro ⟨rfl, rfl⟩
        exact ⟨rfl, rfl, List.cons_ne_nil _ _⟩
      · rintro ⟨rfl, rfl, -⟩
        exact ⟨rfl, rfl⟩

/-- An entry is passed over because of its key, or because of its value. -/
theorem entryFate_eq_skipped_iff {key value : Value} {n : Notice} :
    entryFate key value = .skipped n ↔
      (typeKey? key = none ∧ n = .skippedKey key.shown) ∨
      ∃ t, typeKey? key = some t ∧ propertyNames? value = none ∧
        n = .skippedNames t value.typeName := by
  unfold entryFate
  cases typeKey? key with
  | none => simp [eq_comm]
  | some t => rcases propertyNames? value with _ | _ | ⟨n, ns⟩ <;> simp [eq_comm]

theorem mem_noticesOf_iff {entries : List (Value × Value)} {n : Notice} :
    n ∈ noticesOf entries ↔ ∃ e ∈ entries, entryFate e.1 e.2 = .skipped n := by
  have hnotice : ∀ fate : EntryFate, fate.notice? = some n ↔ fate = .skipped n := fun fate => by
    cases fate <;> simp [EntryFate.notice?]
  simp [noticesOf, entryFates, hnotice]

/-- Storing the names of an entry changes what is found under its type, and nothing else. -/
theorem findText?_store_stored (types : Entries (List Value)) (t u : String) (names : List Value) :
    Entries.findText? ((EntryFate.stored t names).store types) u =
      if t = u then some names else Entries.findText? types u :=
  Entries.findText?_insert _ _ _ _

theorem typesOf_snoc (entries : List (Value × Value)) (e : Value × Value) :
    typesOf (entries ++ [e]) = (entryFate e.1 e.2).store (typesOf entries) := by
  simp [typesOf, entryFates, List.foldl_append]

/-! ## All entries -/

variable {t : String} {entries : List (Value × Value)}

theorem findText?_typesOf_snoc_of_names {key value : Value} {names : List Value}
    (hkey : typeKey? key = some t) (hvalue : propertyNames? value = some names)
    (hnames : names ≠ []) :
    Entries.findText? (typesOf (entries ++ [(key, value)])) t = some names := by
  rw [typesOf_snoc, entryFate_eq_stored_iff.mpr ⟨hkey, hvalue, hnames⟩, findText?_store_stored,
    if_pos rfl]

theorem findText?_typesOf_snoc_of_not {e : Value × Value} (he : ¬ HasNames t e) :
    Entries.findText? (typesOf (entries ++ [e])) t = Entries.findText? (typesOf entries) t := by
  rw [typesOf_snoc]
  cases hfate : entryFate e.1 e.2 with
  | stored u names =>
    obtain ⟨hkey, hvalue, hnames⟩ := entryFate_eq_stored_iff.mp hfate
    have hu : u ≠ t := fun hu => he ⟨hu ▸ hkey, names, hvalue, hnames⟩
    rw [findText?_store_stored, if_neg hu]
  | _ => rfl

/-- **The pass over the entries finds the last names of every type.** -/
theorem configuredNames_typesOf (entries : List (Value × Value)) (t : String) :
    ConfiguredNames t entries ((Entries.findText? (typesOf entries) t).getD []) := by
  induction entries using List.reverseRecOn with
  | nil => exact .none fun e he => absurd he (by simp)
  | append_singleton entries e ih =>
    by_cases he : HasNames t e
    · obtain ⟨hkey, names, hvalue, hnames⟩ := he
      rw [findText?_typesOf_snoc_of_names hkey hvalue hnames]
      exact .last hkey hvalue hnames fun e' he' => absurd he' (by simp)
    · rw [findText?_typesOf_snoc_of_not he]
      exact ih.snoc he

variable (entries) in
theorem findText?_typesOf_append {after : List (Value × Value)}
    (hafter : ∀ e ∈ after, ¬ HasNames t e) :
    Entries.findText? (typesOf (entries ++ after)) t = Entries.findText? (typesOf entries) t := by
  induction after using List.reverseRecOn with
  | nil => rw [List.append_nil]
  | append_singleton after e ih =>
    rw [← List.append_assoc, findText?_typesOf_snoc_of_not (hafter e (by simp))]
    exact ih fun e' he' => hafter e' (List.mem_append_left _ he')

/-- The last names of a type are unique: they are what the pass finds. -/
theorem configuredNames_eq_typesOf {names : List Value}
    (h : ConfiguredNames t entries names) :
    names = (Entries.findText? (typesOf entries) t).getD [] := by
  cases h with
  | @last before after key value _ hkey hvalue hnames hafter =>
    rw [List.append_cons, findText?_typesOf_append _ hafter,
      findText?_typesOf_snoc_of_names hkey hvalue hnames]
    rfl
  | none h =>
    have := findText?_typesOf_append [] h
    rw [List.nil_append] at this
    rw [this]
    rfl

/-! ## Construction -/

/-- A filter is what a value and default names describe: its global names are the set of the
defaults and of the names that the value lists, if it is a text; its names for a type are the last
ones that the value's entries have for it, if it is a mapping. -/
structure IsConfiguredBy (f : NameFilter) (raw : Value) (defaults : List Value) : Prop where
  globalNames : ∃ listed : List Value, IsSetOf f.globalNames (defaults ++ listed) ∧
    ∀ v, v ∈ listed ↔ ∃ s, raw = .text s ∧ ∃ field ∈ fields Text.NameList.separator s.toList,
      trim field ≠ [] ∧ v = .text (String.ofList (trim field))
  noType : ∀ typeId, typeKey? typeId = none → f.namesFor typeId = []
  noMapping : raw.entries? = none → ∀ typeId, f.namesFor typeId = []
  namesFor : ∀ entries typeId t, raw.entries? = some entries → typeKey? typeId = some t →
    ConfiguredNames t entries (f.namesFor typeId)

theorem mem_globalNamesOf_iff {raw v : Value} :
    v ∈ globalNamesOf (Shape.ofValue raw) ↔
      ∃ s, raw = .text s ∧ ∃ field ∈ fields Text.NameList.separator s.toList,
        trim field ≠ [] ∧ v = .text (String.ofList (trim field)) := by
  cases raw with
  | text s => simp [Shape.ofValue, globalNamesOf, mem_listedNames_iff]
  | _ => simp [Shape.ofValue, globalNamesOf]

theorem allHashable_globalNamesOf (shape : Shape) :
    Value.allHashable (globalNamesOf shape) = true := by
  cases shape with
  | names s => exact allHashable_listedNames s
  | _ => simp [globalNamesOf]

theorem namesByTypeOf_of_entries {raw : Value} {entries : List (Value × Value)}
    (h : raw.entries? = some entries) :
    namesByTypeOf (Shape.ofValue raw) = typesOf entries := by
  cases raw with
  | mapping l view es =>
    obtain rfl : es = entries := by simpa using h
    rfl
  | _ => simp [Value.entries?] at h

theorem namesByTypeOf_of_no_entries {raw : Value} (h : raw.entries? = none) :
    namesByTypeOf (Shape.ofValue raw) = [] := by
  cases raw with
  | mapping l view es => simp at h
  | _ => rfl

/-- What has no entries configures the same names for types as a mapping without any. -/
theorem namesByTypeOf_ofValue (raw : Value) :
    namesByTypeOf (Shape.ofValue raw) = typesOf (raw.entries?.getD []) := by
  cases hraw : raw.entries? with
  | none => rw [namesByTypeOf_of_no_entries hraw, Option.getD_none, typesOf_nil]
  | some entries => rw [namesByTypeOf_of_entries hraw, Option.getD_some]

/-- The filter that a value and default names describe, as it is put together. -/
def configured (raw : Value) (defaults : List Value) : NameFilter :=
  ⟨distinct (defaults ++ globalNamesOf (Shape.ofValue raw)), namesByTypeOf (Shape.ofValue raw)⟩

/-- **Construction never fails** on hashable defaults, whatever the value is. -/
theorem outcome_fromConfiguration (raw : Value) {defaults : List Value}
    (hd : Value.allHashable defaults = true) :
    (fromConfiguration raw defaults).outcome = .ok (configured raw defaults) := by
  simp [fromConfiguration, make, configured, Value.allHashable_append, hd,
    allHashable_globalNamesOf]

theorem isConfiguredBy_fromConfiguration {raw : Value} {defaults : List Value} {f : NameFilter}
    (hd : Value.allHashable defaults = true)
    (hf : (fromConfiguration raw defaults).outcome = .ok f) : f.IsConfiguredBy raw defaults := by
  rw [outcome_fromConfiguration raw hd] at hf
  obtain rfl := Except.ok.inj hf
  refine ⟨⟨_, distinct_isSetOf _, fun v => mem_globalNamesOf_iff⟩, ?_, ?_, ?_⟩
  · intro typeId ht
    simp [NameFilter.namesFor, ht]
  · intro hraw typeId
    unfold NameFilter.namesFor
    cases typeKey? typeId with
    | none => rfl
    | some t => simp [configured, namesUnder, namesByTypeOf_of_no_entries hraw, Entries.findText?]
  · intro entries typeId t hraw ht
    simp only [NameFilter.namesFor, ht, namesUnder, configured, namesByTypeOf_of_entries hraw]
    exact configuredNames_typesOf entries t

/-! ## Queries -/

theorem matchesAmong_text (f : NameFilter) (names : List Value) (n : String) :
    f.matchesAmong names (.text n) =
      .ok ((Value.text n).memberOf f.globalNames || (Value.text n).memberOf names) := by
  simp [matchesAmong, matchesAny, isSearchable]

/-- A query about a type answers on every text, by membership. -/
theorem matchesType_text_iff (f : NameFilter) (typeId : Value) (n : String) :
    ∃ b, f.matchesType typeId (.text n) = .ok b ∧
      (b = true ↔ .text n ∈ f.globalNames ∨ .text n ∈ f.namesFor typeId) := by
  refine ⟨_, matchesAmong_text f _ n, ?_⟩
  rw [Bool.or_eq_true, Value.text_memberOf_iff, Value.text_memberOf_iff]

/-- A query about an owner answers on every text, by membership; nothing has no type. -/
theorem matchesOwner_text_iff (f : NameFilter) (owner : Value) (n : String) :
    ∃ b, f.matchesOwner owner (.text n) = .ok b ∧
      (b = true ↔ .text n ∈ f.globalNames ∨
        owner ≠ .null ∧ .text n ∈ f.namesFor (.text owner.typeName)) := by
  refine ⟨_, matchesAmong_text f _ n, ?_⟩
  rw [Bool.or_eq_true, Value.text_memberOf_iff, Value.text_memberOf_iff]
  cases owner with
  | null => simp
  | _ => simp [NameFilter.namesFor]

theorem matchesOwner_null (f : NameFilter) (owner : Value) :
    f.matchesOwner owner .null = .ok false := rfl

theorem matchesType_null (f : NameFilter) (typeId : Value) :
    f.matchesType typeId .null = .ok false := rfl

/-- **The reference semantics of name filters.** From every value and all hashable defaults a filter
is made that they describe. It answers every query about a text by membership among the global names
and the names of the type or of the owner's type, and every query without a name negatively. -/
theorem fromConfiguration_reference (raw : Value) (defaults : List Value)
    (hd : Value.allHashable defaults = true) :
    ∃ f, (fromConfiguration raw defaults).outcome = .ok f ∧ f.IsConfiguredBy raw defaults ∧
      (∀ typeId n, ∃ b, f.matchesType typeId (.text n) = .ok b ∧
        (b = true ↔ .text n ∈ f.globalNames ∨ .text n ∈ f.namesFor typeId)) ∧
      (∀ owner n, ∃ b, f.matchesOwner owner (.text n) = .ok b ∧
        (b = true ↔ .text n ∈ f.globalNames ∨
          owner ≠ .null ∧ .text n ∈ f.namesFor (.text owner.typeName))) ∧
      (∀ typeId, f.matchesType typeId .null = .ok false) ∧
      ∀ owner, f.matchesOwner owner .null = .ok false := by
  have hf := outcome_fromConfiguration raw hd
  exact ⟨_, hf, isConfiguredBy_fromConfiguration hd hf, matchesType_text_iff _,
    matchesOwner_text_iff _, matchesType_null _, matchesOwner_null _⟩

/-- An empty later entry and an entry under nothing leave the names of an earlier entry as they
are. -/
theorem fromConfiguration_reference_kept :
    Value.allHashable [.text "class"] = true ∧
      ∃ f, (fromConfiguration (.mapping none false
          [(.text "User", .text "a, b"), (.type "User" 0, .list none []), (.null, .text "c")])
          [.text "class"]).outcome = .ok f ∧
        f.matchesType (.type "User" 7) (.text "b") = .ok true ∧
        f.matchesType (.type "User" 7) (.text "c") = .ok false := by
  have hd : Value.allHashable [.text "class"] = true := by decide
  refine ⟨hd, ?_⟩
  obtain ⟨f, hf, -⟩ := fromConfiguration_reference (.mapping none false
    [(.text "User", .text "a, b"), (.type "User" 0, .list none []), (.null, .text "c")])
    [.text "class"] hd
  refine ⟨f, hf, ?_⟩
  rw [outcome_fromConfiguration _ hd] at hf
  obtain rfl := Except.ok.inj hf
  constructor <;> cbv

end NameFilter

end PropertyFilter
