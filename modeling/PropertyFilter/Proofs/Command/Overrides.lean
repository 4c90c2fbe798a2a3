import PropertyFilter.Command.Overrides
import PropertyFilter.Proofs.Filter.Sides

/-!
# What overrides do

Names listed on the command line reach the filter of a side by one of two ways: as a text in the
configuration, or beside it. By both ways they take the place of what the file lists for any type,
leave a mapping by types as it is, and do not touch the other side.

## Main definitions

* `overrideOf excludes includes s`: the override for a side
* `SideMatches entries override s typeName n`: a side matches a name, as the file and the override
  say
* `MergedConfiguration.Matches m s typeName n`: the same, as a merged configuration says

## Main results

* `findText?_mergeOverrides`, `extraNames_mergeOverrides`: the two ways of the overrides
* `MergedConfiguration.exists_filters`: the filters of a merged configuration match what it matches
* `sideMatches_iff`: a merged configuration says the same as the file and the overrides
-/

namespace PropertyFilter

open OutputFilters (sideValue typeIdOf)

/-- The override for a side. -/
def overrideOf (excludes includes : Option String) : Side → Option String
  | .excludes => excludes
  | .includes => includes

/-- A side matches a name on owners of a type: the name is built in, or an override lists it, or
without an override the file lists it, or the file configures it for the type. -/
inductive SideMatches (entries : List (Value × Value)) (override : Option String) (s : Side)
    (typeName : Option String) (n : String) : Prop where
  | builtIn (hs : s = .excludes) (hn : n ∈ ["class", "metaClass", "declaringClass"])
  | override {text : String} (h : override = some text) (hn : n ∈ Text.NameList.read text)
  | file {text : String} (h : override = none)
      (hside : Entries.findText? entries s.key = some (.text text))
      (hn : n ∈ Text.NameList.read text)
  | typed {value : Value} {sub : List (Value × Value)} {t : String} {names : List Value}
      (hside : Entries.findText? entries s.key = some value) (hsub : value.entries? = some sub)
      (htype : typeName = some t) (hnames : ConfiguredNames t sub names) (hn : .text n ∈ names)

namespace MergedConfiguration

variable {m : MergedConfiguration} {s s' : Side}

/-- An override reaches its side as a text, unless there is a mapping. -/
theorem findText?_override_self (names : Option String) :
    Entries.findText? (m.override s names).entries s.key =
      if m.hasMapping s then Entries.findText? m.entries s.key
      else (names.map .text).or (Entries.findText? m.entries s.key) := by
  cases names with
  | none => simp
  | some text =>
    unfold override
    simp only
    split <;> simp [Entries.findText?_insert]

/-- Where there is a mapping, the names of an override stand beside it. -/
theorem extraNames_override_self (names : Option String) (h : ∀ e ∈ m.extra, e.1 ≠ s) :
    (m.override s names).extraNames s =
      if m.hasMapping s then (names.map Text.NameList.read).getD [] else [] := by
  have hnone : m.extra.find? (fun e => e.1 == s) = none := by
    rw [List.find?_eq_none]
    exact fun e he => by simpa using h e he
  cases names with
  | none => simp [extraNames, hnone]
  | some text =>
    unfold override
    simp only
    split <;> simp [extraNames, List.find?_append, hnone]

/-- An override leaves the other side as it is. -/
theorem findText?_override_other (names : Option String) (h : s ≠ s') :
    Entries.findText? (m.override s names).entries s'.key = Entries.findText? m.entries s'.key := by
  cases names with
  | none => rfl
  | some text =>
    unfold override
    simp only
    split
    · rfl
    · simp [Entries.findText?_insert, mt Side.key_injective h]

theorem extraNames_override_other (names : Option String) (h : s ≠ s') :
    (m.override s names).extraNames s' = m.extraNames s' := by
  cases names with
  | none => rfl
  | some text =>
    unfold override
    simp only
    split
    · simp [extraNames, List.find?_append, h]
    · rfl

theorem hasMapping_override_other (names : Option String) (h : s ≠ s') :
    (m.override s names).hasMapping s' = m.hasMapping s' := by
  rw [hasMapping, hasMapping, findText?_override_other names h]

/-- Beside the configuration stand the names of an override where there is a mapping. -/
theorem mem_extra_override_iff {names : Option String} {e : Side × List String} :
    e ∈ (m.override s names).extra ↔ e ∈ m.extra ∨
      m.hasMapping s = true ∧ ∃ text, names = some text ∧ e = (s, Text.NameList.read text) := by
  cases names with
  | none => simp
  | some text =>
    unfold override
    simp only
    split
    · next hmapping => simp [hmapping]
    · next hmapping => simp [hmapping]

/-- A merged configuration matches a name on one side: the name is built in or stands beside the
configuration, or the configuration lists it or configures it for the type. -/
def Matches (m : MergedConfiguration) (s : Side) (typeName : Option String) (n : String) : Prop :=
  (.text n ∈ s.builtIn ∨ n ∈ m.extraNames s) ∨
    (∃ t, sideValue m.entries s = .text t ∧ n ∈ Text.NameList.read t) ∨
    ∃ t sub names, typeName = some t ∧ (sideValue m.entries s).entries? = some sub ∧
      ConfiguredNames t sub names ∧ .text n ∈ names

/-- The filters of a merged configuration match what it matches. -/
theorem exists_filters (m : MergedConfiguration) :
    ∃ c, m.filters.outcome = .ok c ∧ ∀ s typeName n,
      ∃ b, (c.side s).matchesType (typeIdOf typeName) (.text n) = .ok b ∧
        (b = true ↔ m.Matches s typeName n) := by
  obtain ⟨c, hc, hsides⟩ := OutputFilters.exists_build m.entries m.extraNames
  refine ⟨c, hc, fun s typeName n => ?_⟩
  obtain ⟨b, hb, hiff⟩ := (c.side s).matchesType_text_iff (typeIdOf typeName) n
  have hd := s.allHashable_defaults (m.extraNames s)
  refine ⟨b, hb, ?_⟩
  rw [hiff, NameFilter.text_mem_globalNames_iff hd (hsides s),
    NameFilter.text_mem_namesFor_iff hd (hsides s), or_assoc, Matches]
  simp

end MergedConfiguration

/-! ## Both overrides -/

section

variable (entries : List (Value × Value)) (excludes includes : Option String) (s : Side)

/-- Whether the file has a mapping for a side. -/
def fileHasMapping : Bool := (⟨entries, []⟩ : MergedConfiguration).hasMapping s

/-- What stands in the merged configuration for a side. -/
theorem findText?_mergeOverrides :
    Entries.findText? (mergeOverrides entries excludes includes).entries s.key =
      if fileHasMapping entries s then Entries.findText? entries s.key
      else ((overrideOf excludes includes s).map .text).or (Entries.findText? entries s.key) := by
  unfold mergeOverrides fileHasMapping
  cases s with
  | excludes =>
    rw [MergedConfiguration.findText?_override_other _ (by decide),
      MergedConfiguration.findText?_override_self]
    rfl
  | includes =>
    rw [MergedConfiguration.findText?_override_self,
      MergedConfiguration.hasMapping_override_other _ (by decide),
      MergedConfiguration.findText?_override_other _ (by decide)]
    rfl

/-- What stands beside the merged configuration for a side. -/
theorem extraNames_mergeOverrides :
    (mergeOverrides entries excludes includes).extraNames s =
      if fileHasMapping entries s then
        ((overrideOf excludes includes s).map Text.NameList.read).getD []
      else [] := by
  unfold mergeOverrides fileHasMapping
  cases s with
  | excludes =>
    rw [MergedConfiguration.extraNames_override_other _ (by decide),
      MergedConfiguration.extraNames_override_self _ (by simp)]
    rfl
  | includes =>
    rw [MergedConfiguration.extraNames_override_self,
      MergedConfiguration.hasMapping_override_other _ (by decide)]
    · rfl
    · intro e he
      rcases MergedConfiguration.mem_extra_override_iff.mp he with he | ⟨-, text, -, rfl⟩
      · contradiction
      · exact Side.noConfusion

theorem fileHasMapping_iff :
    fileHasMapping entries s = true ↔
      ∃ value sub, Entries.findText? entries s.key = some value ∧ value.entries? = some sub := by
  unfold fileHasMapping MergedConfiguration.hasMapping
  cases Entries.findText? entries s.key with
  | none => simp
  | some value => simp [Value.isMapping, Option.isSome_iff_exists]

variable {entries excludes includes s} {typeName : Option String} {n : String}

theorem sideMatches_iff_of_mapping (hmapping : fileHasMapping entries s = true) :
    SideMatches entries (overrideOf excludes includes s) s typeName n ↔
      (mergeOverrides entries excludes includes).Matches s typeName n := by
  rw [MergedConfiguration.Matches, sideValue, findText?_mergeOverrides, extraNames_mergeOverrides,
    Side.text_mem_builtIn_iff]
  generalize overrideOf excludes includes s = override
  obtain ⟨value, sub, hvalue, hsub⟩ := (fileHasMapping_iff entries s).mp hmapping
  rw [if_pos hmapping, if_pos hmapping, hvalue, Option.getD_some]
  constructor
  · rintro (⟨hs, hn⟩ | ⟨h, hn⟩ | ⟨h, hside, hn⟩ | ⟨hside, hsub', htype, hnames, hn⟩)
    · exact .inl (.inl ⟨hs, hn⟩)
    · subst h
      exact .inl (.inr hn)
    · obtain rfl := Option.some.inj (hvalue.symm.trans hside)
      contradiction
    · obtain rfl := Option.some.inj (hvalue.symm.trans hside)
      exact .inr (.inr ⟨_, _, _, htype, hsub', hnames, hn⟩)
  · rintro ((⟨hs, hn⟩ | hn) | ⟨t, rfl, -⟩ | ⟨t, sub', names, htype, hsub', hnames, hn⟩)
    · exact .builtIn hs hn
    · cases override with
      | none => contradiction
      | some text => exact .override rfl hn
    · contradiction
    · exact .typed hvalue hsub' htype hnames hn

theorem sideMatches_iff_of_no_mapping (hmapping : ¬ fileHasMapping entries s = true) :
    SideMatches entries (overrideOf excludes includes s) s typeName n ↔
      (mergeOverrides entries excludes includes).Matches s typeName n := by
  rw [MergedConfiguration.Matches, sideValue, findText?_mergeOverrides, extraNames_mergeOverrides,
    Side.text_mem_builtIn_iff]
  generalize overrideOf excludes includes s = override
  have hno : ∀ value, Entries.findText? entries s.key = some value → value.entries? = none := by
    intro value hvalue
    by_contra hsub
    obtain ⟨sub, hsub⟩ := Option.ne_none_iff_exists'.mp hsub
    exact hmapping ((fileHasMapping_iff entries s).mpr ⟨value, sub, hvalue, hsub⟩)
  rw [if_neg hmapping, if_neg hmapping]
  constructor
  · rintro (⟨hs, hn⟩ | ⟨rfl, hn⟩ | ⟨rfl, hside, hn⟩ | ⟨hside, hsub, -, -, -⟩)
    · exact .inl (.inl ⟨hs, hn⟩)
    · exact .inr (.inl ⟨_, rfl, hn⟩)
    · rw [hside]
      exact .inr (.inl ⟨_, rfl, hn⟩)
    · rw [hno _ hside] at hsub
      contradiction
  · rintro ((⟨hs, hn⟩ | hn) | ⟨t, ht, hn⟩ | ⟨t, sub, names, -, hsub, -, -⟩)
    · exact .builtIn hs hn
    · contradiction
    · cases override with
      | some text =>
        obtain rfl := Value.text.inj ht
        exact .override rfl hn
      | none =>
        cases hside : Entries.findText? entries s.key with
        | none => simp [hside] at ht
        | some value =>
          obtain rfl : value = .text t := by simpa [hside] using ht
          exact .file rfl hside hn
    · cases override with
      | some text => contradiction
      | none =>
        cases hside : Entries.findText? entries s.key with
        | none => simp [hside, Value.entries?] at hsub
        | some value => simp [hside, hno value hside] at hsub

/-- **What a merged configuration matches** is what the file and the override for the side say. -/
theorem sideMatches_iff :
    SideMatches entries (overrideOf excludes includes s) s typeName n ↔
      (mergeOverrides entries excludes includes).Matches s typeName n := by
  by_cases hmapping : fileHasMapping entries s = true
  · exact sideMatches_iff_of_mapping hmapping
  · exact sideMatches_iff_of_no_mapping hmapping

end

/-! ## Loading -/

/-- A configuration is built if it can be loaded. -/
theorem outcome_buildConfiguration (files : FileTree) (file excludes includes : Option String) :
    (buildConfiguration files file excludes includes).outcome =
      (fileEntries files file).outcome.map fun entries =>
        mergeOverrides entries excludes includes := by
  rw [buildConfiguration]
  generalize fileEntries files file = loaded
  obtain ⟨notices, outcome⟩ := loaded
  cases outcome <;> rfl

/-- Putting overrides in is not logged. -/
theorem notices_buildConfiguration (files : FileTree) (file excludes includes : Option String) :
    (buildConfiguration files file excludes includes).notices =
      (fileEntries files file).notices := by
  rw [buildConfiguration]
  generalize fileEntries files file = loaded
  obtain ⟨notices, outcome⟩ := loaded
  cases outcome with
  | error e => rfl
  | ok entries => exact List.append_nil notices

end PropertyFilter
