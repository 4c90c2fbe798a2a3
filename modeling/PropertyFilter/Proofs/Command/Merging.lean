import PropertyFilter.Command.Run
import PropertyFilter.Proofs.Command.Verdicts
import PropertyFilter.Proofs.Format.Keys
import PropertyFilter.Proofs.Validation.PlainKeys

/-!
# Overrides and the report on a configuration

Overrides never make a configuration worse. An override takes the place of what the file has for a
side, unless that is a mapping, and then nothing is wrong with the side any more; a mapping stays as
it is, and so does what is wrong with it. So the report on the merged configuration is the report on
the file without the issues at the sides that are replaced.

## Main definitions

* `Issue.isAt i s`: an issue lies at a side or below it
* `isReplaced es excludes includes s`: an override replaces what the file has for a side
* `MergedConfiguration.TakesPlace`, `MergedConfiguration.StandsBeside`: the two ways of an override

## Main results

* `issues_mergeOverrides`: the report on a merged configuration
* `takesPlace_iff`, `xor_of_override`: an override goes one of two ways
* `run_validate_of_overrides`: where a check finds nothing wrong, it finds nothing wrong with
  overrides
* `buildConfiguration_never_worse`: what overrides do to a configuration that is loaded
-/

namespace PropertyFilter

open Document (lastUnder?)

/-- Whether one of the sides has a property. -/
def Side.any (p : Side → Bool) : Bool := p .excludes || p .includes

theorem Side.any_iff {p : Side → Bool} : Side.any p = true ↔ ∃ s, p s = true := by
  rw [Side.any, Bool.or_eq_true]
  constructor
  · rintro (h | h)
    · exact ⟨_, h⟩
    · exact ⟨_, h⟩
  · rintro ⟨s, h⟩
    cases s with
    | excludes => exact .inl h
    | includes => exact .inr h

/-- Whether an issue lies at a side or below it. -/
def Issue.isAt (i : Issue) (s : Side) : Bool := i.place.head? == some s.key

section

variable (es : List (Value × Value)) (excludes includes : Option String)

/-- Whether an override takes the place of what the file has for a side: it does unless that is a
mapping. -/
def isReplaced (s : Side) : Bool :=
  (overrideOf excludes includes s).isSome && !fileHasMapping es s

/-- Whether a key is that of a side that an override replaces. -/
def isReplacedKey (key : Value) : Bool :=
  Side.any fun s => isReplaced es excludes includes s && key.same (.text s.key)

/-- Whether an issue lies at a side that an override replaces. -/
def isReplacedIssue (i : Issue) : Bool :=
  Side.any fun s => isReplaced es excludes includes s && i.isAt s

end

/-- An override is the value of its side, and no names stand beside it. -/
def MergedConfiguration.TakesPlace (m : MergedConfiguration) (s : Side) (text : String) : Prop :=
  Entries.findText? m.entries s.key = some (.text text) ∧ ∀ e ∈ m.extra, e.1 ≠ s

/-- The mapping that a file has for a side is the value of the side, and the names of an override
stand beside it. -/
def MergedConfiguration.StandsBeside (m : MergedConfiguration) (es : List (Value × Value))
    (s : Side) (text : String) : Prop :=
  ∃ value sub, value.entries? = some sub ∧ Entries.findText? es s.key = some value ∧
    Entries.findText? m.entries s.key = some value ∧
    ∀ names, (s, names) ∈ m.extra ↔ names = Text.NameList.read text

/-! ## Entries -/

/-- An insertion under a text does not change the entries that are chosen without its key. -/
theorem Entries.filter_insert_text {α : Type} {p : Value → Bool} {key : String}
    (h : p (.text key) = false) (a : α) (es : Entries α) :
    (Entries.insert (.text key) a es).filter (fun e => p e.1) = es.filter fun e => p e.1 := by
  induction es with
  | nil => simp [h]
  | cons e es ih =>
    obtain ⟨k, b⟩ := e
    unfold Entries.insert
    split
    · next hk =>
      obtain rfl := Value.same_text_right_iff.mp hk
      simp [h]
    · simp only [List.filter_cons, ih]

namespace MergedConfiguration

variable {m : MergedConfiguration} {s : Side}

/-- An override leaves the entries as they are, or puts a text in for its side. -/
theorem entries_override_cases (m : MergedConfiguration) (s : Side) (names : Option String) :
    (m.override s names).entries = m.entries ∨
      ∃ text, names = some text ∧ m.hasMapping s = false ∧
        (m.override s names).entries = Entries.insert (.text s.key) (.text text) m.entries := by
  cases names with
  | none => exact .inl rfl
  | some text =>
    rw [override]
    cases hmapping : m.hasMapping s with
    | true => exact .inl rfl
    | false => exact .inr ⟨text, rfl, rfl, rfl⟩

theorem keysApart_override (h : Entries.KeysApart m.entries) (names : Option String) :
    Entries.KeysApart (m.override s names).entries := by
  rcases m.entries_override_cases s names with heq | ⟨text, -, -, heq⟩
  · rwa [heq]
  · rw [heq]
    exact h.insert _ _

theorem hasPlainSides_override (h : HasPlainSides m.entries) (names : Option String) :
    HasPlainSides (m.override s names).entries := by
  rcases m.entries_override_cases s names with heq | ⟨text, -, -, heq⟩
  · rwa [heq]
  · rw [heq]
    exact h.insert _ _

/-- An override changes no entry but that of its side. -/
theorem filter_override {p : Value → Bool} {names : Option String}
    (h : names.isSome = true → m.hasMapping s = false → p (.text s.key) = false) :
    (m.override s names).entries.filter (fun e => p e.1) = m.entries.filter fun e => p e.1 := by
  rcases m.entries_override_cases s names with heq | ⟨text, rfl, hmapping, heq⟩
  · rw [heq]
  · rw [heq]
    exact Entries.filter_insert_text (h rfl hmapping) _ _

end MergedConfiguration

section

variable {es : List (Value × Value)} {excludes includes : Option String} {s : Side} {i : Issue}

theorem keysApart_mergeOverrides (h : Entries.KeysApart es) :
    Entries.KeysApart (mergeOverrides es excludes includes).entries :=
  MergedConfiguration.keysApart_override
    (MergedConfiguration.keysApart_override h excludes) includes

theorem hasPlainSides_mergeOverrides (h : HasPlainSides es) :
    HasPlainSides (mergeOverrides es excludes includes).entries :=
  MergedConfiguration.hasPlainSides_override
    (MergedConfiguration.hasPlainSides_override h excludes) includes

/-- **Other entries** than those of replaced sides stay as they are. -/
theorem filter_mergeOverrides :
    (mergeOverrides es excludes includes).entries.filter
        (fun e => !isReplacedKey es excludes includes e.1) =
      es.filter fun e => !isReplacedKey es excludes includes e.1 := by
  have hreplaced : ∀ s : Side, (overrideOf excludes includes s).isSome = true →
      fileHasMapping es s = false →
        (!isReplacedKey es excludes includes (.text s.key)) = false := by
    intro s hsome hmapping
    rw [Bool.not_eq_false', isReplacedKey, Side.any_iff]
    exact ⟨s, by simp [isReplaced, hsome, hmapping]⟩
  rw [mergeOverrides, MergedConfiguration.filter_override (p := fun k => !isReplacedKey _ _ _ k),
    MergedConfiguration.filter_override (p := fun k => !isReplacedKey _ _ _ k)]
  · exact hreplaced .excludes
  · rw [MergedConfiguration.hasMapping_override_other _ (by decide)]
    exact hreplaced .includes

/-- What is checked at a side of the merged configuration: the text that replaces what the file has,
or else just that. -/
theorem lastUnder?_mergeOverrides (hes : Entries.KeysApart es) (hsides : HasPlainSides es) :
    lastUnder? (mergeOverrides es excludes includes).entries s.key =
      if isReplaced es excludes includes s then (overrideOf excludes includes s).map .text
      else Entries.findText? es s.key := by
  rw [lastUnder?_eq_findText?_ofList (hasPlainSides_mergeOverrides hsides),
    (keysApart_mergeOverrides hes).ofList_eq, findText?_mergeOverrides, isReplaced]
  cases fileHasMapping es s <;> cases overrideOf excludes includes s <;> simp

/-! ## Reports -/

theorem isAt_iff_of_mem {d : Document} {s' : Side} (h : i ∈ sideSchema.issues [s.key] d) :
    i.isAt s' = true ↔ s = s' := by
  obtain ⟨rest, hrest⟩ := Schema.prefix_of_mem_issues h
  have hhead : i.place.head? = some s.key := by
    rw [← hrest]
    rfl
  rw [Issue.isAt, hhead, beq_iff_eq, Option.some.injEq]
  exact ⟨Side.key_injective, congrArg Side.key⟩

/-- **The report on a merged configuration** is the report on the file, in the same order, without
the issues at sides that are replaced. -/
theorem issues_mergeOverrides (hes : Entries.KeysApart es) (hsides : HasPlainSides es) :
    issues (mergeOverrides es excludes includes).configuration =
      (issues (.mapping none false es)).filter fun i =>
        !isReplacedIssue es excludes includes i := by
  refine issues_eq_filter fun i => ?_
  have hreplaced : ∀ {s d}, i ∈ sideSchema.issues [s.key] d →
      (isReplacedIssue es excludes includes i = true ↔
        isReplaced es excludes includes s = true) := by
    intro s d hi
    simp [isReplacedIssue, Side.any_iff, isAt_iff_of_mem hi]
  have hfile : ∀ s : Side, lastUnder? es s.key = Entries.findText? es s.key := by
    intro s
    rw [lastUnder?_eq_findText?_ofList hsides, hes.ofList_eq]
  rw [MergedConfiguration.configuration, mem_issues_mapping_iff, mem_issues_mapping_iff,
    Bool.not_eq_true']
  simp only [lastUnder?_mergeOverrides hes hsides, hfile]
  constructor
  · rintro ⟨s, v, hv, hi⟩
    cases hs : isReplaced es excludes includes s with
    | true =>
      rw [hs, if_pos rfl] at hv
      obtain ⟨text, -, rfl⟩ := Option.map_eq_some_iff.mp hv
      exact absurd hi List.not_mem_nil
    | false =>
      rw [hs, if_neg Bool.false_ne_true] at hv
      refine ⟨⟨s, v, hv, hi⟩, ?_⟩
      rw [Bool.eq_false_iff, ne_eq, hreplaced hi, hs]
      exact Bool.false_ne_true
  · rintro ⟨⟨s, v, hv, hi⟩, hnot⟩
    rw [Bool.eq_false_iff, ne_eq, hreplaced hi] at hnot
    exact ⟨s, v, by rw [if_neg hnot, hv], hi⟩

/-! ## Sides -/

theorem mem_extra_mergeOverrides_iff {e : Side × List String} :
    e ∈ (mergeOverrides es excludes includes).extra ↔ fileHasMapping es e.1 = true ∧
      ∃ text, overrideOf excludes includes e.1 = some text ∧ e.2 = Text.NameList.read text := by
  obtain ⟨s, names⟩ := e
  rw [mergeOverrides, MergedConfiguration.mem_extra_override_iff,
    MergedConfiguration.mem_extra_override_iff,
    MergedConfiguration.hasMapping_override_other _ (by decide)]
  cases s with
  | excludes => simp [fileHasMapping, overrideOf]
  | includes => simp [fileHasMapping, overrideOf]

/-- Without an override, nothing changes at a side. -/
theorem side_of_no_override (h : overrideOf excludes includes s = none) :
    Entries.findText? (mergeOverrides es excludes includes).entries s.key =
        Entries.findText? es s.key ∧
      ∀ e ∈ (mergeOverrides es excludes includes).extra, e.1 ≠ s := by
  refine ⟨by simp [findText?_mergeOverrides, h], ?_⟩
  rintro e he rfl
  obtain ⟨-, text, htext, -⟩ := mem_extra_mergeOverrides_iff.mp he
  rw [h] at htext
  contradiction

section

variable {text : String}

theorem takesPlace_of_isReplaced (h : overrideOf excludes includes s = some text)
    (hreplaced : isReplaced es excludes includes s = true) :
    (mergeOverrides es excludes includes).TakesPlace s text := by
  rw [isReplaced, Bool.and_eq_true, Bool.not_eq_true'] at hreplaced
  refine ⟨by simp [findText?_mergeOverrides, hreplaced.2, h], ?_⟩
  rintro e he rfl
  obtain ⟨hmapping, -⟩ := mem_extra_mergeOverrides_iff.mp he
  rw [hreplaced.2] at hmapping
  contradiction

theorem standsBeside_of_not_isReplaced (h : overrideOf excludes includes s = some text)
    (hkept : isReplaced es excludes includes s = false) :
    (mergeOverrides es excludes includes).StandsBeside es s text := by
  have hmapping : fileHasMapping es s = true := by simpa [isReplaced, h] using hkept
  obtain ⟨value, sub, hvalue, hsub⟩ := (fileHasMapping_iff es s).mp hmapping
  refine ⟨value, sub, hsub, hvalue, by simp [findText?_mergeOverrides, hmapping, hvalue], ?_⟩
  intro names
  simp [mem_extra_mergeOverrides_iff, hmapping, h]

theorem MergedConfiguration.StandsBeside.not_takesPlace {m : MergedConfiguration}
    (h : m.StandsBeside es s text) : ¬ m.TakesPlace s text := by
  rintro ⟨htext, -⟩
  obtain ⟨value, sub, hsub, -, hvalue, -⟩ := h
  obtain rfl := Option.some.inj (hvalue.symm.trans htext)
  contradiction

/-- **An override takes the place** of what the file has if it replaces that, -/
theorem takesPlace_iff (h : overrideOf excludes includes s = some text) :
    (mergeOverrides es excludes includes).TakesPlace s text ↔
      isReplaced es excludes includes s = true := by
  refine ⟨fun htakes => ?_, takesPlace_of_isReplaced h⟩
  by_contra hkept
  rw [Bool.not_eq_true] at hkept
  exact (standsBeside_of_not_isReplaced h hkept).not_takesPlace htakes

/-- and else, but only then, its names stand beside that. -/
theorem xor_of_override (h : overrideOf excludes includes s = some text) :
    Xor ((mergeOverrides es excludes includes).TakesPlace s text)
      ((mergeOverrides es excludes includes).StandsBeside es s text) := by
  cases hreplaced : isReplaced es excludes includes s with
  | true =>
    have htakes := takesPlace_of_isReplaced h hreplaced
    exact .inl ⟨htakes, fun hbeside => hbeside.not_takesPlace htakes⟩
  | false =>
    have hbeside := standsBeside_of_not_isReplaced h hreplaced
    exact .inr ⟨hbeside, hbeside.not_takesPlace⟩

end

end

/-! ## Loaded configurations -/

section

variable {files : FileTree} {path : String} {file : Option String} {c : Value}
  {es : List (Value × Value)}

/-- There is no configuration at the empty path. -/
theorem ne_empty_of_loaded (h : (loadConfiguration files path).outcome = .ok c) : path ≠ "" := by
  rintro rfl
  obtain ⟨p, format, expanded, hsuffix⟩ := exists_fileFound h
  have hhere : (Path.ofText "").expandHome files.home? = .ok (Path.ofText "") := rfl
  obtain rfl := Except.ok.inj (hhere.symm.trans expanded)
  have hnone : FileFormat.ofSuffix? (Path.ofText "").suffix = none := by cbv
  rw [hnone] at hsuffix
  contradiction

theorem outcome_fileEntries_of_loaded {label : Option Label} {view : Bool}
    (h : (loadConfiguration files path).outcome = .ok (.mapping label view es))
    (hes : Entries.KeysApart es) : (fileEntries files (some path)).outcome = .ok es := by
  rw [fileEntries_some (ne_empty_of_loaded h), Noticed.outcome_bind_ok h]
  exact congrArg Except.ok hes.ofList_eq

/-- The entries of a configuration have their keys apart. -/
theorem keysApart_fileEntries (h : (fileEntries files file).outcome = .ok es) :
    Entries.KeysApart es := by
  rcases fileEntries_cases h with rfl | ⟨_, _, -, -, -, rfl⟩
  · exact Entries.keysApart_nil
  · exact Entries.keysApart_ofList _

theorem hasPlainSides_fileEntries (h : (fileEntries files file).outcome = .ok es) :
    HasPlainSides es := by
  have hdata : ∀ e ∈ es, e.1.IsData true ∧ e.2.IsData true := isData_fileEntries h fun _ => rfl
  exact hasPlainSides_of_isData hdata

end

/-! ## Checks -/

namespace Command

variable {w : World} {arguments arguments' : List String} {x : Options} {c : Value}

theorem check_of_clean (h : report c = .ok []) :
    check w c = endWith 0 (w.printLine (w.color.success "Configuration is valid.")) := by
  rw [check, h]

/-- A check that ends with status 0 has found nothing wrong. -/
theorem report_of_check (h : (check w c).2 = .status 0) : report c = .ok [] := by
  unfold check at h
  split at h
  · contradiction
  · next hclean => exact hclean
  · unfold endWith at h
    split at h <;> simp at h

/-- Nothing is found wrong with a configuration without issues whose keys all have a text. -/
theorem report_eq_nil_iff : report c = .ok [] ↔ Document.hasKeyTexts c = true ∧ issues c = [] := by
  unfold report
  split
  · next hcheckable =>
    have hkeys : Document.hasKeyTexts c = true := by
      rw [isCheckable, Bool.and_eq_true] at hcheckable
      exact hcheckable.1
    rw [Except.ok.injEq, issueMessages, List.map_eq_nil_iff, and_iff_right hkeys]
  · next hcheckable =>
    refine iff_of_false (by simp) ?_
    rintro ⟨hkeys, hissues⟩
    exact hcheckable (by simp [isCheckable, hkeys, hissues])

theorem entriesHaveKeyTexts_iff {es : List (Value × Value)} :
    Document.entriesHaveKeyTexts es = true ↔
      ∀ e ∈ es, Document.hasKeyText e.1 = true ∧ Document.hasKeyTexts e.2 = true := by
  induction es with
  | nil => simp [Document.entriesHaveKeyTexts]
  | cons e es ih =>
    obtain ⟨key, v⟩ := e
    simp [Document.entriesHaveKeyTexts, ih]

/-- The texts of overrides leave all keys with a text. -/
theorem hasKeyTexts_override {m : MergedConfiguration} {s : Side} {names : Option String}
    (h : Document.hasKeyTexts m.configuration = true) :
    Document.hasKeyTexts (m.override s names).configuration = true := by
  unfold MergedConfiguration.override
  split
  · exact h
  split
  · exact h
  · rw [MergedConfiguration.configuration, Document.hasKeyTexts, entriesHaveKeyTexts_iff] at h ⊢
    exact Entries.forall_mem_insert (P := (Document.hasKeyText · = true))
      (Q := (Document.hasKeyTexts · = true)) rfl rfl h

/-- Overrides put nothing wrong into a configuration with which nothing is wrong. -/
theorem report_mergeOverrides_of_clean {es : List (Value × Value)}
    {excludes includes : Option String} (hes : Entries.KeysApart es) (hsides : HasPlainSides es)
    (h : report (mergeOverrides es none none).configuration = .ok []) :
    report (mergeOverrides es excludes includes).configuration = .ok [] := by
  obtain ⟨hkeys, hissues⟩ := report_eq_nil_iff.mp h
  have hfile : issues (.mapping none false es) = [] := hissues
  refine report_eq_nil_iff.mpr ⟨hasKeyTexts_override (hasKeyTexts_override hkeys), ?_⟩
  rw [issues_mergeOverrides hes hsides, hfile]
  rfl

/-- **Where a check finds nothing wrong, it finds nothing wrong with overrides**: the run is the
same. -/
theorem run_validate_of_overrides (hx : parseOptions arguments = .ok x)
    (hx' : parseOptions arguments' = .ok { x with excludes := none, includes := none })
    (hvalidate : x.validate = true) (h : (run w arguments').2 = .status 0) :
    run w arguments = run w arguments' := by
  -- both runs set up the log in the same way and load the same file
  have hrun : run w arguments = runOptions w x := by rw [run, hx]
  have hrun' : run w arguments' = runOptions w { x with excludes := none, includes := none } := by
    rw [run, hx']
  have hsettings : logSettings { x with excludes := none, includes := none } = logSettings x := rfl
  rw [hrun'] at h
  rw [hrun, hrun']
  rw [runOptions, hsettings] at h
  rw [runOptions, runOptions, hsettings]
  generalize w.setUpLog (logSettings x) = start at h ⊢
  obtain ⟨w₁, _ | e⟩ := start
  · simp only [andThen, withNotices, outcome_buildConfiguration, notices_buildConfiguration] at h ⊢
    generalize List.foldl World.notice w₁ _ = w₂ at h ⊢
    cases hfile : (fileEntries w₁.files x.config).outcome with
    | error e =>
      rw [hfile] at h
      cases e <;> simp [Except.map, fail] at h
    | ok es =>
      rw [hfile] at h
      simp only [Except.map, useConfiguration, hvalidate, if_true] at h ⊢
      have hclean := report_of_check h
      have hes := keysApart_fileEntries hfile
      have hsides := hasPlainSides_fileEntries hfile
      rw [check_of_clean (report_mergeOverrides_of_clean hes hsides hclean),
        check_of_clean (report_mergeOverrides_of_clean hes hsides hclean)]
  · simp [andThen] at h

end Command

/-! ## The whole -/

/-- **Overrides never make a configuration worse.** What is wrong with the merged configuration is
what is wrong with the file, in the same order, without the issues at sides that are replaced.
Without an override a side stays as it is. An override is either the value of its side, namely if it
replaces what the file has, or its names stand beside the mapping that the file has. All other
entries stay as they are. And a check that ends with status 0 does so with overrides as well. -/
theorem buildConfiguration_never_worse {files : FileTree} {path : String} {c : Value}
    (h : (loadConfiguration files path).outcome = .ok c) (excludes includes : Option String) :
    ∃ (label : Option Label) (es : List (Value × Value)) (m : MergedConfiguration),
      c = .mapping label false es ∧ Entries.KeysApart es ∧
      (buildConfiguration files (some path) excludes includes).outcome = .ok m ∧
      issues m.configuration =
        (issues c).filter (fun i => !isReplacedIssue es excludes includes i) ∧
      (∀ s, overrideOf excludes includes s = none →
        Entries.findText? m.entries s.key = Entries.findText? es s.key ∧
          ∀ e ∈ m.extra, e.1 ≠ s) ∧
      (∀ s text, overrideOf excludes includes s = some text →
        (m.TakesPlace s text ↔ isReplaced es excludes includes s = true) ∧
          Xor (m.TakesPlace s text) (m.StandsBeside es s text)) ∧
      m.entries.filter (fun e => !isReplacedKey es excludes includes e.1) =
        es.filter (fun e => !isReplacedKey es excludes includes e.1) ∧
      ∀ (w : World) (arguments arguments' : List String) (x : Command.Options),
        Command.parseOptions arguments = .ok x →
        Command.parseOptions arguments' = .ok { x with excludes := none, includes := none } →
        x.validate = true → (Command.run w arguments').2 = .status 0 →
          Command.run w arguments = Command.run w arguments' := by
  obtain ⟨label, es, rfl, hes, hdata⟩ := exists_entries_of_loaded h
  have hmerged : (buildConfiguration files (some path) excludes includes).outcome =
      .ok (mergeOverrides es excludes includes) := by
    rw [outcome_buildConfiguration, outcome_fileEntries_of_loaded h hes]
    rfl
  have hissues : issues (.mapping none false es) = issues (.mapping label false es) :=
    issues_eq_of_lastUnder? fun _ => rfl
  refine ⟨label, es, _, rfl, hes, hmerged, ?_, fun s => side_of_no_override,
    fun s text htext => ⟨takesPlace_iff htext, xor_of_override htext⟩, filter_mergeOverrides,
    fun w arguments arguments' x => Command.run_validate_of_overrides⟩
  rw [issues_mergeOverrides hes (hasPlainSides_of_isData hdata), hissues]

/-- A document in which both sides are malformed, one of them as a whole. -/
def malformedText : List Char :=
  "\x7b\"excludes\":true,\"includes\":\x7b\"A\":true\x7d\x7d".toList

/-- A directory with the document. -/
def malformedSides : FileTree :=
  { FileTree.empty "/work" with
    nodes := [(["a.json"], .file 0)]
    contents := [[123, 34, 101, 120, 99, 108, 117, 100, 101, 115, 34, 58, 116, 114, 117, 101, 44,
      34, 105, 110, 99, 108, 117, 100, 101, 115, 34, 58, 123, 34, 65, 34, 58, 116, 114, 117, 101,
      125, 125]] }

/-- The entries of the document. -/
def malformedEntries : List (Value × Value) :=
  [(.text "excludes", .bool true),
    (.text "includes", .mapping none false [(.text "A", .bool true)])]

/-- What is wrong with the document. -/
def malformedIssues : List Issue :=
  [⟨["excludes"], .leaf (.bool true), [.null, .string, .object]⟩,
    ⟨["includes", "A"], .leaf (.bool true), [.string, .array]⟩]

/-- One override mends a side, the other leaves what is wrong with its side. -/
theorem buildConfiguration_never_worse_malformed :
    (loadConfiguration malformedSides "a.json").outcome =
        .ok (.mapping none false malformedEntries) ∧
      (issues (.mapping none false malformedEntries)).map Issue.place =
        [["excludes"], ["includes", "A"]] ∧
      ∃ m, (buildConfiguration malformedSides (some "a.json") (some "id") (some "a, b")).outcome =
          .ok m ∧
        (issues m.configuration).map Issue.place = [["includes", "A"]] ∧
        Entries.findText? m.entries "excludes" = some (.text "id") ∧
        (.includes, ["a", "b"]) ∈ m.extra ∧
        Command.run Command.colorless ["--validate", "--excludes", "id"] =
          Command.run Command.colorless ["--validate"] := by
  have hfound : DocumentFound malformedSides "a.json" ⟨.here, ["a.json"]⟩ .json malformedText :=
    ⟨⟨by decide, by decide⟩, _, rfl, by cbv⟩
  have hread : FileFormat.json.read malformedText = .ok (.mapping none false malformedEntries) := by
    cbv
  have hload := hfound.outcome_of_table hread
  obtain ⟨label, es, m, hc, -, hm, hissues, -, hsides, -, hrun⟩ :=
    buildConfiguration_never_worse hload (some "id") (some "a, b")
  obtain ⟨rfl, -, rfl⟩ := Value.mapping.inj hc
  have hraw : configurationSchema.issues []
      (Document.ofValue (.mapping none false malformedEntries)) = malformedIssues := by
    cbv
  have hfile : issues (.mapping none false malformedEntries) = malformedIssues := by
    have hplaces : ¬ ["includes", "A"] < ["excludes"] := by
      rw [List.cons_lt_cons_iff, String.lt_iff_toList_lt]
      decide
    rw [issues, hraw, List.mergeSort_of_pairwise]
    refine List.pairwise_pair.mpr ?_
    simp only [Issue.before, hplaces, decide_false, Bool.not_false]
  have hempty : Command.parseOptions ["--validate"] =
      .ok { Command.Options.none with validate := true } := by
    cbv
  have hexcludes := (hsides .excludes "id" rfl).1.mpr (by cbv)
  obtain ⟨hreplaced, hincludes⟩ := hsides .includes "a, b" rfl
  have hkept : isReplaced malformedEntries (some "id") (some "a, b") .includes = false := by cbv
  refine ⟨hload, by rw [hfile]; rfl, m, hm, ?_, hexcludes.1, ?_, ?_⟩
  · rw [hissues, hfile]
    cbv
  · rcases hincludes with ⟨htakes, -⟩ | ⟨⟨_, _, -, -, -, hextra⟩, -⟩
    · rw [hreplaced, hkept] at htakes
      exact absurd htakes Bool.false_ne_true
    · exact (hextra _).mpr (by decide)
  · refine hrun _ _ _ { Command.Options.none with validate := true, excludes := some "id" } ?_
      hempty rfl ?_
    · cbv
    · rw [Command.run, hempty]
      cbv

end PropertyFilter
