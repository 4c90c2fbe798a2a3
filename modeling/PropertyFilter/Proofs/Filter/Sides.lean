import PropertyFilter.Command.Verdict
import PropertyFilter.Proofs.Filter.Construction

/-!
# The two sides of a configuration

Both filters of a pair are made by the same construction, each from its own side of the
configuration. Building a pair succeeds whenever the extra names are hashable, and what the filters
match is said by look-ups in the configuration.

## Main definitions

* `OutputFilters.configured`: the pair that the entries of a configuration describe

## Main results

* `OutputFilters.build_of_mapping`: building a pair, side by side
* `NameFilter.text_mem_globalNames_iff`, `NameFilter.text_mem_namesFor_iff`: what a filter matches
  globally, and on owners of a type
-/

namespace PropertyFilter

theorem Side.key_injective {s s' : Side} (h : s.key = s'.key) : s = s' := by
  cases s <;> cases s' <;> simp [Side.key] at h ⊢

theorem Side.allHashable_builtIn (s : Side) : Value.allHashable s.builtIn = true := by
  cases s <;> rfl

/-- Names that are texts make good extra names for a side. -/
theorem Side.allHashable_defaults (s : Side) (names : List String) :
    Value.allHashable (s.builtIn ++ names.map .text) = true := by
  rw [Value.allHashable_append, s.allHashable_builtIn, Value.allHashable_map_text]
  rfl

theorem Side.text_mem_builtIn_iff {s : Side} {n : String} :
    .text n ∈ s.builtIn ↔ s = .excludes ∧ n ∈ ["class", "metaClass", "declaringClass"] := by
  cases s <;> simp [Side.builtIn]

namespace Noticed

variable {ε α β : Type} {x : Noticed ε α} {a : α}

/-- What follows a result decides the outcome. -/
theorem outcome_bind_ok (h : x.outcome = .ok a) (f : α → Noticed ε β) :
    (x >>= f).outcome = (f a).outcome := by
  obtain ⟨notices, outcome⟩ := x
  obtain rfl : outcome = .ok a := h
  rfl

/-- A sequence with a result has one at its first step, and then goes on with it. -/
theorem exists_of_bind_ok {f : α → Noticed ε β} {b : β} (h : (x >>= f).outcome = .ok b) :
    ∃ a, x.outcome = .ok a ∧ (f a).outcome = .ok b := by
  obtain ⟨notices, outcome⟩ := x
  cases outcome with
  | error e => contradiction
  | ok a => exact ⟨a, rfl, h⟩

/-- Restating the reason for a failure makes no result. -/
theorem outcome_of_mapError_ok {δ : Type} {f : ε → δ} (h : (x.mapError f).outcome = .ok a) :
    x.outcome = .ok a := by
  obtain ⟨notices, outcome⟩ := x
  cases outcome with
  | error e => contradiction
  | ok b => exact congrArg Except.ok (Except.ok.inj h)

end Noticed

namespace OutputFilters

variable {entries : List (Value × Value)} {names : Side → List Value}

/-- The pair that the entries of a configuration describe, with names for either side that match on
any owner. -/
def configured (entries : List (Value × Value)) (names : Side → List Value) : OutputFilters :=
  ⟨.configured (sideValue entries .excludes) (Side.excludes.builtIn ++ names .excludes),
    .configured (sideValue entries .includes) (Side.includes.builtIn ++ names .includes)⟩

theorem side_configured (s : Side) :
    (configured entries names).side s =
      .configured (sideValue entries s) (s.builtIn ++ names s) := by
  cases s <;> rfl

/-- A side is read from a value of the configuration, or from nothing. -/
theorem sideValue_mem (entries : List (Value × Value)) (s : Side) :
    sideValue entries s = .null ∨ ∃ e ∈ entries, sideValue entries s = e.2 := by
  unfold sideValue Entries.findText? Entries.find?
  cases hfind : List.find? _ entries with
  | none => exact .inl rfl
  | some e => exact .inr ⟨e, List.mem_of_find?_eq_some hfind, rfl⟩

/-- A side that is built is configured by what it is read from, with the extra names as defaults. -/
theorem exists_fromConfiguration_of_buildSide {s : Side} {extra : Value} {f : NameFilter}
    (h : (buildSide entries s extra).outcome = .ok f) :
    ∃ listed, extra.members? = some listed ∧
      (NameFilter.fromConfiguration (sideValue entries s) (s.builtIn ++ listed)).outcome =
        .ok f := by
  unfold buildSide at h
  split at h
  · contradiction
  · next listed hlisted => exact ⟨listed, hlisted, Noticed.outcome_of_mapError_ok h⟩

/-- A pair that is built comes from a mapping, and its sides are built from the entries. -/
theorem exists_buildSide_of_build {configuration extraExcludes extraIncludes : Value}
    {c : OutputFilters}
    (h : (build configuration extraExcludes extraIncludes).outcome = .ok c) :
    ∃ entries, configuration.entries? = some entries ∧
      (buildSide entries .excludes extraExcludes).outcome = .ok c.excludes ∧
      (buildSide entries .includes extraIncludes).outcome = .ok c.includes := by
  unfold build at h
  split at h
  · contradiction
  · next entries hentries =>
    obtain ⟨excludes, hexcludes, h⟩ := Noticed.exists_of_bind_ok h
    obtain ⟨includes, hincludes, h⟩ := Noticed.exists_of_bind_ok h
    obtain ⟨-, -, h⟩ := Noticed.exists_of_bind_ok h
    obtain rfl := Except.ok.inj h
    refine ⟨entries, ?_, hexcludes, hincludes⟩
    cases configuration with
    | mapping label view es =>
      obtain rfl := Except.ok.inj hentries
      rfl
    | _ => contradiction

theorem buildSide_of_hashable {s : Side} {extra : Value} (hextra : extra.members? = some (names s))
    (hnames : Value.allHashable (names s) = true) :
    buildSide entries s extra =
      ⟨NameFilter.shapeNotices (Shape.ofValue (sideValue entries s)),
        .ok ((configured entries names).side s)⟩ := by
  have hdefaults : Value.allHashable (s.builtIn ++ names s) = true := by
    rw [Value.allHashable_append, s.allHashable_builtIn, hnames, Bool.and_self]
  have hmade := NameFilter.outcome_fromConfiguration (sideValue entries s) hdefaults
  simp only [buildSide, hextra, Noticed.mapError, hmade, side_configured]
  rfl

/-- **Building a pair** from a mapping succeeds if the extra names are hashable. Each filter is made
from its own side and its own extra names, and what is noticed is what is noticed about either side,
and that the pair is complete. -/
theorem build_of_mapping (label : Option Label) (view : Bool) (entries : List (Value × Value))
    (extra : Side → Value) (names : Side → List Value)
    (hextra : ∀ s, (extra s).members? = some (names s))
    (hnames : ∀ s, Value.allHashable (names s) = true) :
    build (.mapping label view entries) (extra .excludes) (extra .includes) =
      ⟨NameFilter.shapeNotices (Shape.ofValue (sideValue entries .excludes)) ++
        (NameFilter.shapeNotices (Shape.ofValue (sideValue entries .includes)) ++
          [completion (configured entries names).excludes (configured entries names).includes]),
        .ok (configured entries names)⟩ := by
  simp only [build, entriesOf, buildEntries, buildSide_of_hashable (hextra _) (hnames _)]
  rfl

/-- Building a pair with texts as extra names. -/
theorem exists_build (entries : List (Value × Value)) (extra : Side → List String) :
    ∃ c, (build (.mapping none false entries) (.tuple none ((extra .excludes).map .text))
        (.tuple none ((extra .includes).map .text))).outcome = .ok c ∧
      ∀ s, (NameFilter.fromConfiguration (sideValue entries s)
        (s.builtIn ++ (extra s).map .text)).outcome = .ok (c.side s) := by
  have hbuild := build_of_mapping none false entries
    (fun s => .tuple none ((extra s).map .text)) (fun s => (extra s).map .text) (fun _ => rfl)
    (fun s => Value.allHashable_map_text (extra s))
  refine ⟨_, congrArg Noticed.outcome hbuild, fun s => ?_⟩
  rw [NameFilter.outcome_fromConfiguration _ (s.allHashable_defaults _), side_configured]

end OutputFilters

namespace NameFilter

variable {raw : Value} {defaults : List Value} {f : NameFilter}

/-- Globally, a filter matches the defaults and the names of a text. -/
theorem text_mem_globalNames_iff (hd : Value.allHashable defaults = true)
    (hf : (fromConfiguration raw defaults).outcome = .ok f) {n : String} :
    .text n ∈ f.globalNames ↔
      .text n ∈ defaults ∨ ∃ t, raw = .text t ∧ n ∈ Text.NameList.read t := by
  rw [outcome_fromConfiguration raw hd] at hf
  obtain rfl := Except.ok.inj hf
  rw [configured, (distinct_isSetOf _).text_mem_iff, List.mem_append]
  refine or_congr_right ?_
  cases raw with
  | text t => simp [Shape.ofValue, globalNamesOf, listedNames]
  | _ => simp [Shape.ofValue, globalNamesOf]

/-- On owners of a type, a filter matches the last names that the entries of a mapping have for the
type. -/
theorem text_mem_namesFor_iff (hd : Value.allHashable defaults = true)
    (hf : (fromConfiguration raw defaults).outcome = .ok f) {typeName : Option String}
    {n : String} :
    .text n ∈ f.namesFor (OutputFilters.typeIdOf typeName) ↔
      ∃ t entries names, typeName = some t ∧ raw.entries? = some entries ∧
        ConfiguredNames t entries names ∧ .text n ∈ names := by
  have hconfigured := isConfiguredBy_fromConfiguration hd hf
  cases typeName with
  | none => simp [OutputFilters.typeIdOf, hconfigured.noType .null rfl]
  | some t =>
    cases hraw : raw.entries? with
    | none => simp [hconfigured.noMapping hraw]
    | some entries =>
      have hnames := hconfigured.namesFor entries (.text t) t hraw rfl
      simp only [OutputFilters.typeIdOf, Option.map_some, Option.getD_some, Option.some.injEq,
        exists_and_left, exists_eq_left']
      constructor
      · exact fun hn => ⟨_, hnames, hn⟩
      · rintro ⟨names, hnames', hn⟩
        rwa [configuredNames_eq_typesOf hnames, ← configuredNames_eq_typesOf hnames']

end NameFilter

end PropertyFilter
