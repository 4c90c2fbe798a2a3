import PropertyFilter.Proofs.Command.Verdicts
import PropertyFilter.Proofs.Filter.Snapshot
import PropertyFilter.Proofs.Format.Data
import PropertyFilter.Proofs.Format.Yaml.Writing
import PropertyFilter.Proofs.Log.Console

/-!
# Runs with a configuration

Once its configuration has been loaded, a run ends with status 0 or 1, but for three hindrances:
names for a type that are no plain data cannot be shown, a whole number with too many digits cannot
be shown either, and a layer around standard output may fail on a line that holds a command to set
the title.

## Main definitions

* `ConfiguresName P entries`: `P` holds of some name for a type
* `printedLines`: the lines that a run prints
* `Hindrance`: what keeps a run from its end
* `Ending.Follows hindered n ending`: the ending of a run that hindrances keep from status `n`

## Main results

* `printLines_spec`: printing lines fails if and only if a layer fails on one of them
* `run_of_loaded`: how a run with a loaded configuration ends
-/

namespace PropertyFilter.Command

open OutputFilters (sideValue typeIdOf)
open Terminal (ColorState Jams esc)

/-! ## Names that cannot be written -/

/-- Some side configures a name for a type that `P` holds of. -/
def ConfiguresName (P : Value → Prop) (entries : List (Value × Value)) : Prop :=
  ∃ (s : Side) (value : Value) (sub : List (Value × Value)) (t : String) (names : List Value),
    Entries.findText? entries s.key = some value ∧ value.entries? = some sub ∧
      ConfiguredNames t sub names ∧ ∃ n ∈ names, P n

/-- Some name for a type is no plain data. -/
def ConfiguresUnwritable (entries : List (Value × Value)) : Prop :=
  ConfiguresName (fun n => ¬ n.IsData false) entries

/-- Some name for a type is or holds a whole number with too many digits. -/
def ConfiguresLong (entries : List (Value × Value)) : Prop :=
  ConfiguresName (fun n => ¬ n.isShowable = true) entries

variable {entries : List (Value × Value)}

/-- The mapping of a side is that of the file, whatever the overrides are. -/
theorem entries?_sideValue_mergeOverrides {excludes includes : Option String} {s : Side}
    {sub : List (Value × Value)} :
    (sideValue (mergeOverrides entries excludes includes).entries s).entries? = some sub ↔
      ∃ value, Entries.findText? entries s.key = some value ∧ value.entries? = some sub := by
  rw [sideValue, findText?_mergeOverrides]
  by_cases hmapping : fileHasMapping entries s = true
  · rw [if_pos hmapping]
    cases Entries.findText? entries s.key with
    | none => simp [Value.entries?]
    | some value => simp
  · rw [if_neg hmapping]
    have hno : ¬ ∃ value, Entries.findText? entries s.key = some value ∧
        value.entries? = some sub := by
      rintro ⟨value, hvalue, hsub⟩
      exact hmapping ((fileHasMapping_iff entries s).mpr ⟨value, sub, hvalue, hsub⟩)
    refine ⟨fun h => ?_, fun h => absurd h hno⟩
    cases htext : overrideOf excludes includes s with
    | some text =>
      rw [htext] at h
      contradiction
    | none =>
      rw [htext] at h
      cases hvalue : Entries.findText? entries s.key with
      | none =>
        rw [hvalue] at h
        contradiction
      | some value =>
        rw [hvalue] at h
        exact absurd ⟨value, hvalue, h⟩ hno

/-- What does not hold of some name for a type does not hold of the plain value of filters. -/
theorem snapshot_iff_not_configuresName {excludes includes : Option String} {v : Value}
    (hv : ∀ P, Value.Hereditary P → (P v ↔ ∀ s sub t names,
      (sideValue (mergeOverrides entries excludes includes).entries s).entries? = some sub →
        ConfiguredNames t sub names → ∀ n ∈ names, P n)) {P : Value → Prop}
    (hP : Value.Hereditary P) : P v ↔ ¬ ConfiguresName (fun n => ¬ P n) entries := by
  rw [hv P hP]
  simp only [entries?_sideValue_mergeOverrides]
  constructor
  · rintro h ⟨s, value, sub, t, names, hvalue, hsub, hnames, n, hn, hnot⟩
    exact hnot (h s sub t names ⟨value, hvalue, hsub⟩ hnames n hn)
  · rintro h s sub t names ⟨value, hvalue, hsub⟩ hnames n hn
    by_contra hnot
    exact h ⟨s, value, sub, t, names, hvalue, hsub, hnames, n, hn, hnot⟩

/-- The names that plain data stands for are plain data. -/
theorem isData_of_mem_propertyNames? {clocks : Bool} {v : Value} (hv : v.IsData clocks)
    {names : List Value} (h : propertyNames? v = some names) : ∀ n ∈ names, n.IsData clocks := by
  cases v with
  | text s =>
    obtain rfl := Option.some.inj h
    exact List.forall_mem_map.mpr fun name _ => Value.isData_text name
  | list label items | tuple label items =>
    obtain rfl := Option.some.inj h
    rw [Value.IsData, Value.areData_iff] at hv
    exact hv
  | set label frozen items =>
    obtain rfl := Option.some.inj h
    rw [Value.IsData, Value.areData_iff] at hv
    exact hv.2
  | range a b c => simp [Value.IsData] at hv
  | _ => contradiction

/-- A name for a type stands in an entry of the mapping of a side. -/
theorem ConfiguresName.exists_entry {P : Value → Prop} (h : ConfiguresName P entries) :
    ∃ e ∈ entries, ∃ sub, e.2.entries? = some sub ∧ ∃ e' ∈ sub, ∃ names,
      propertyNames? e'.2 = some names ∧ ∃ n ∈ names, P n := by
  obtain ⟨s, value, sub, t, names, hvalue, hsub, hnames, n, hn, hP⟩ := h
  obtain ⟨e, he, -, rfl⟩ := Entries.mem_of_find?_eq_some hvalue
  obtain ⟨e', he', hlisted⟩ := hnames.exists_entry (List.ne_nil_of_mem hn)
  exact ⟨e, he, sub, hsub, e', he', names, hlisted, n, hn, hP⟩

/-- Names that are all plain data can be written. -/
theorem not_configuresUnwritable (h : ∀ e ∈ entries, e.1.IsData false ∧ e.2.IsData false) :
    ¬ ConfiguresUnwritable entries := by
  intro hconfigures
  obtain ⟨e, he, sub, hsub, e', he', names, hlisted, n, hn, hdata⟩ := hconfigures.exists_entry
  have hentries : ∀ e' ∈ sub, e'.1.IsData false ∧ e'.2.IsData false := by
    have hmapping := (h e he).2
    cases hside : e.2 with
    | mapping label view es =>
      rw [hside] at hsub hmapping
      obtain rfl := Option.some.inj hsub
      rw [Value.IsData, Value.entriesAreData_iff] at hmapping
      exact hmapping.2
    | _ =>
      rw [hside] at hsub
      contradiction
  exact hdata (isData_of_mem_propertyNames? (hentries e' he').2 hlisted n hn)

/-! ## Output -/

variable {w w₁ : World} {c : OutputFilters} {x : Options} {matched : Side → String → Bool}

/-- **Printing lines** fails if a layer fails on one of them, and else it does not. -/
theorem printLines_spec (w : World) (lines : List String) :
    ((∃ line ∈ lines, Jams w.color.layers line) →
      ∃ w', w.printLines lines = (w', some .noSuchOperation)) ∧
    ((∀ line ∈ lines, ¬ Jams w.color.layers line) → ∃ w', w.printLines lines = (w', none)) := by
  induction lines generalizing w with
  | nil => exact ⟨by simp, fun _ => ⟨w, rfl⟩⟩
  | cons line lines ih =>
    rw [World.printLines, World.printLine]
    cases hfault : (Terminal.deliverLine w.color.layers line).fault with
    | some e =>
      obtain rfl : e = .noSuchOperation := by
        rw [Terminal.fault_deliverLine] at hfault
        exact Terminal.fault_deliver hfault
      have hjams : Jams w.color.layers line := by simp [Jams, hfault]
      exact ⟨fun _ => ⟨_, rfl⟩, fun h => absurd hjams (h line List.mem_cons_self)⟩
    | none =>
      have hpasses : ¬ Jams w.color.layers line := by simp [Jams, hfault]
      obtain ⟨hjam, hpass⟩ := ih (w.put .stdout (Terminal.deliverLine w.color.layers line).arrived)
      refine ⟨?_, fun h => hpass fun l hl => h l (List.mem_cons_of_mem _ hl)⟩
      rintro ⟨l, hl, hjams⟩
      rcases List.mem_cons.mp hl with rfl | hl
      · exact absurd hjams hpasses
      · exact hjam ⟨l, hl, hjams⟩

theorem printLines_singleton (w : World) (line : String) :
    w.printLines [line] = w.printLine line := by
  rw [World.printLines]
  generalize w.printLine line = printed
  obtain ⟨w', _ | e⟩ := printed <;> rfl

/-- The line of a verdict. -/
def coloredVerdict (color : ColorState) (typeName : Option String)
    (matched : Side → String → Bool) (n : String) : String :=
  Verdict.line color typeName (.text n) ⟨matched .excludes n, matched .includes n⟩

/-- Verdicts are lines, one after the other. -/
theorem showVerdicts_eq_printLines {typeName : Option String}
    (hmatched : ∀ s n, (c.side s).matchesType (typeIdOf typeName) (.text n) = .ok (matched s n))
    (names : List String) :
    showVerdicts w c typeName names =
      w.printLines (names.map (coloredVerdict w.color typeName matched)) := by
  have hverdict : ∀ n, c.verdict typeName (.text n) =
      .ok ⟨matched .excludes n, matched .includes n⟩ := by
    intro n
    have hexcludes : c.excludes.matchesType _ _ = _ := hmatched .excludes n
    have hincludes : c.includes.matchesType _ _ = _ := hmatched .includes n
    rw [OutputFilters.verdict, hexcludes, hincludes]
    rfl
  induction names generalizing w with
  | nil => rfl
  | cons n names ih =>
    have hcolor : (w.printLine (coloredVerdict w.color typeName matched n)).1.color = w.color := rfl
    rw [showVerdicts, describeProperty, hverdict, Except.map, List.map_cons, World.printLines]
    simp only
    rw [← coloredVerdict]
    cases hprint : w.printLine (coloredVerdict w.color typeName matched n) with
    | mk w' fault =>
      rw [hprint] at hcolor
      cases fault with
      | some e => rfl
      | none =>
        have hcolor' : w'.color = w.color := hcolor
        simp only
        rw [ih, hcolor']

/-- The filters are shown if all names can be written; no layer fails on their document. Else there
is a fault that says why they cannot. -/
theorem showFilters_spec {v : Value} (hv : c.snapshot = .ok v) :
    (∃ w', showFilters w c = (w', none) ∧ w'.color = w.color ∧ v.IsData false ∧
      v.isShowable = true) ∨
    (showFilters w c = (w, some .unrepresentable) ∧ ¬ v.IsData false) ∨
      (showFilters w c = (w, some .malformed) ∧ ¬ v.isShowable = true) := by
  have hwrite := Yaml.ends_write v
  unfold showFilters
  rw [hv]
  dsimp only
  generalize htext : Yaml.write v = written at hwrite ⊢
  cases hwrite with
  | unrepresentable hdata => exact .inr (.inl ⟨rfl, hdata⟩)
  | tooLong hlong => exact .inr (.inr ⟨rfl, by simp [hlong]⟩)
  | ok text hdata hshowable =>
    have hplain : esc ∉ text.toList := by
      intro hesc
      have hclear := Yaml.clear_document htext esc hesc
      exact absurd hclear (by decide)
    refine .inl ⟨w.put .stdout text.toList, ?_, rfl, hdata, hshowable⟩
    simp only [World.write, Terminal.deliver_of_plain hplain]

/-! ## Runs -/

/-- The lines that a run prints: the issues of its configuration, or verdicts. -/
def printedLines (color : ColorState) (x : Options) (issues : List String)
    (matched : Side → String → Bool) : List String :=
  if x.validate then
    if issues = [] then [color.success "Configuration is valid."]
    else issues.map color.error ++ ["Configuration validation failed."]
  else x.properties.map (coloredVerdict color x.typeName matched)

/-- The filters are to be shown, and names for a type cannot be written. -/
def Unshowable (x : Options) (entries : List (Value × Value)) : Prop :=
  x.validate = false ∧ x.showFilters = true ∧ ConfiguresUnwritable entries

/-- A whole number with too many digits is to be shown: in a report, or with the filters. -/
def ShowsLong (x : Options) (entries : List (Value × Value)) : Prop :=
  (x.validate = true ∧
    isCheckable (mergeOverrides entries x.excludes x.includes).configuration = false) ∨
  (x.validate = false ∧ x.showFilters = true ∧ ConfiguresLong entries)

/-- What keeps a run from its end: names that cannot be shown, a number that cannot be shown or, if
it gets as far as that, a line that a layer fails on. -/
inductive Hindrance (x : Options) (entries : List (Value × Value)) (layers : Nat)
    (lines : List String) : Fault → Prop
  | unwritable (h : Unshowable x entries) : Hindrance x entries layers lines .unrepresentable
  | long (h : ShowsLong x entries) : Hindrance x entries layers lines .malformed
  | jam (hshown : ¬ Unshowable x entries) (hshort : ¬ ShowsLong x entries)
    (h : ∃ line ∈ lines, Jams layers line) : Hindrance x entries layers lines .noSuchOperation

/-- A run ends with status `n` unless something hinders it, and then by a hindrance. -/
structure Ending.Follows (hindered : Fault → Prop) (n : Nat) (ending : Ending) : Prop where
  crash : ∀ f, ending = .crash f → hindered f
  exists_crash : ∀ f, hindered f → ∃ f', ending = .crash f'
  status : (∀ f, ¬ hindered f) → ending = .status n

/-- A run that ends by a hindrance. -/
theorem Ending.follows_of_hindered {hindered : Fault → Prop} {f : Fault} (h : hindered f)
    (n : Nat) : Ending.Follows hindered n (.crash f) where
  crash _ hcrash := Ending.crash.inj hcrash ▸ h
  exists_crash _ _ := ⟨f, rfl⟩
  status hfree := absurd h (hfree f)

/-- The ending of a run after its lines, where nothing else can fail. -/
theorem endWith_printLines_follows (w : World) {lines : List String}
    (hshown : ¬ Unshowable x entries) (hshort : ¬ ShowsLong x entries) (n : Nat) :
    (endWith n (w.printLines lines)).2.Follows (Hindrance x entries w.color.layers lines) n := by
  obtain ⟨hjam, hpass⟩ := printLines_spec w lines
  by_cases hjams : ∃ line ∈ lines, Jams w.color.layers line
  · obtain ⟨w', hprint⟩ := hjam hjams
    rw [hprint]
    exact Ending.follows_of_hindered (.jam hshown hshort hjams) n
  · obtain ⟨w', hprint⟩ := hpass fun line hline hj => hjams ⟨line, hline, hj⟩
    rw [hprint]
    have hfree : ∀ f, ¬ Hindrance x entries w.color.layers lines f := by
      rintro f (h | h | ⟨-, -, h⟩)
      · exact hshown h
      · exact hshort h
      · exact hjams h
    exact ⟨fun f h => by contradiction, fun f h => absurd h (hfree f), fun _ => rfl⟩

/-- A check of the configuration. -/
theorem check_spec (w : World) (matched : Side → String → Bool) (hvalidate : x.validate = true)
    {configuration : Value}
    (hmerged : (mergeOverrides entries x.excludes x.includes).configuration = configuration) :
    (check w configuration).2.Follows (Hindrance x entries w.color.layers
      (printedLines w.color x (issueMessages configuration) matched))
      (if issueMessages configuration = [] then 0 else 1) := by
  have hshown : ¬ Unshowable x entries := by
    rintro ⟨h, -⟩
    rw [hvalidate] at h
    contradiction
  cases hcheckable : isCheckable configuration with
  | false =>
    have hcheck : check w configuration = (w, .crash .malformed) := by
      rw [check, report, hcheckable]
      rfl
    rw [hcheck]
    refine Ending.follows_of_hindered (.long (.inl ⟨hvalidate, ?_⟩)) _
    rw [hmerged, hcheckable]
  | true =>
    have hshort : ¬ ShowsLong x entries := by
      rintro (⟨-, hlong⟩ | ⟨hunvalidated, -⟩)
      · rw [hmerged, hcheckable] at hlong
        contradiction
      · rw [hvalidate] at hunvalidated
        contradiction
    have hcheck : check w configuration =
        endWith (if issueMessages configuration = [] then 0 else 1)
          (w.printLines (printedLines w.color x (issueMessages configuration) matched)) := by
      rw [printedLines, if_pos hvalidate, check, report, if_pos hcheckable]
      cases issueMessages configuration with
      | nil => rw [if_pos rfl, if_pos rfl, printLines_singleton]
      | cons message messages => rw [if_neg (by simp), if_neg (by simp)]
    rw [hcheck]
    exact endWith_printLines_follows w hshown hshort _

/-- Filters are shown if they are asked for and nothing about them is in the way. -/
theorem shown_or_hindered (w : World) (hvalidate : x.validate = false) {v : Value}
    (hv : c.snapshot = .ok v) (hdata : v.IsData false ↔ ¬ ConfiguresUnwritable entries)
    (hshowable : v.isShowable = true ↔ ¬ ConfiguresLong entries) (layers : Nat)
    (lines : List String) :
    (∃ w₂, (if x.showFilters then showFilters w c else (w, none)) = (w₂, none) ∧
        w₂.color = w.color ∧ ¬ Unshowable x entries ∧ ¬ ShowsLong x entries) ∨
      ∃ f, Hindrance x entries layers lines f ∧
        (if x.showFilters then showFilters w c else (w, none)) = (w, some f) := by
  cases hshow : x.showFilters with
  | false =>
    have hnone : ¬ Unshowable x entries ∧ ¬ ShowsLong x entries := by
      simp [Unshowable, ShowsLong, hvalidate, hshow]
    exact .inl ⟨w, rfl, rfl, hnone⟩
  | true =>
    rw [if_pos rfl]
    rcases showFilters_spec (w := w) hv with
      ⟨w₂, hwritten, hcolor, hplain, hshort⟩ | ⟨hfails, hnot⟩ | ⟨hfails, hnot⟩
    · refine .inl ⟨w₂, hwritten, hcolor, fun h => hdata.mp hplain h.2.2, ?_⟩
      rintro (⟨h, -⟩ | ⟨-, -, h⟩)
      · rw [hvalidate] at h
        contradiction
      · exact hshowable.mp hshort h
    · exact .inr ⟨_, .unwritable ⟨hvalidate, hshow, not_not.mp (mt hdata.mpr hnot)⟩, hfails⟩
    · exact .inr ⟨_, .long (.inr ⟨hvalidate, hshow, not_not.mp (mt hshowable.mpr hnot)⟩), hfails⟩

/-- Filters that are shown, and verdicts. -/
theorem answer_spec (hvalidate : x.validate = false) {v : Value} (hv : c.snapshot = .ok v)
    (hdata : v.IsData false ↔ ¬ ConfiguresUnwritable entries)
    (hshowable : v.isShowable = true ↔ ¬ ConfiguresLong entries)
    (hmatched : ∀ s n,
      (c.side s).matchesType (typeIdOf x.typeName) (.text n) = .ok (matched s n))
    (issues : List String) :
    (answer w x c).2.Follows
      (Hindrance x entries w.color.layers (printedLines w.color x issues matched)) 0 := by
  have hlines : printedLines w.color x issues matched =
      x.properties.map (coloredVerdict w.color x.typeName matched) := by
    rw [printedLines, hvalidate]
    rfl
  rcases shown_or_hindered w hvalidate hv hdata hshowable w.color.layers
    (printedLines w.color x issues matched) with
    ⟨w₂, hwritten, hcolor, hplain, hshort⟩ | ⟨f, hindered, hfails⟩
  · have hverdicts := showVerdicts_eq_printLines (w := w₂) hmatched x.properties
    rw [hcolor, ← hlines] at hverdicts
    have hanswer : (answer w x c).2 =
        (endWith 0 (w₂.printLines (printedLines w.color x issues matched))).2 := by
      rw [answer, hwritten, andThen, hverdicts]
      obtain ⟨w₃, _ | e⟩ := w₂.printLines (printedLines w.color x issues matched)
      · rw [andThen]
        split <;> rfl
      · rfl
    rw [hanswer, ← hcolor]
    exact endWith_printLines_follows w₂ hplain hshort 0
  · have hanswer : answer w x c = (w, .crash f) := by
      rw [answer, hfails]
      rfl
    rw [hanswer]
    exact Ending.follows_of_hindered hindered 0

/-- **Runs with a configuration, from the command line to the ending.** Where a command line is
accepted, its log file has a proper path, and the configuration can be loaded once the log is set
up, nothing but a hindrance keeps the run from ending with status 0 or, if it has found issues,
with status 1. Only a TOML document can hinder a run by names that are no plain data. -/
theorem run_of_loaded (w : World) (arguments : List String) {x : Options}
    {entries : List (Value × Value)} (hx : parseOptions arguments = .ok x)
    (hnull : ∀ path ∈ x.logFile, NoNull path) (hbase : NoNull w.files.base)
    (hfile : (fileEntries (w.setUpLog (logSettings x)).1.files x.config).outcome = .ok entries) :
    ∃ (w' : World) (ending : Ending) (matched : Side → String → Bool) (lines : List String),
      run w arguments = (w', ending) ∧
      (∀ s n, matched s n = true ↔
        SideMatches entries (overrideOf x.excludes x.includes s) s x.typeName n) ∧
      lines = printedLines (w.setUpLog (logSettings x)).1.color x
        (issueMessages (mergeOverrides entries x.excludes x.includes).configuration) matched ∧
      ending.Follows
        (Hindrance x entries (w.setUpLog (logSettings x)).1.color.layers lines)
        (if x.validate = true ∧ issueMessages (mergeOverrides entries x.excludes
          x.includes).configuration ≠ [] then 1 else 0) ∧
      (ConfiguresUnwritable entries → ReadsToml (w.setUpLog (logSettings x)).1.files x.config) := by
  obtain ⟨color, hforce⟩ := exists_force w x
  obtain ⟨w₁, hsetup, -, -, hq⟩ := World.setUpLog_spec hforce rfl hnull hbase
  rw [hsetup] at hfile ⊢
  have hbuild : (buildConfiguration w₁.files x.config x.excludes x.includes).outcome =
      .ok (mergeOverrides entries x.excludes x.includes) := by
    rw [outcome_buildConfiguration, hfile]
    rfl
  generalize hm : mergeOverrides entries x.excludes x.includes = m at hbuild
  obtain ⟨hloaded, hquiet⟩ := World.unprinted_notices hq
    (buildConfiguration w₁.files x.config x.excludes x.includes).notices
  generalize hw₂ : List.foldl World.notice w₁ _ = w₂ at hloaded hquiet
  obtain ⟨hbuilt, -⟩ := World.unprinted_notices hquiet m.filters.notices
  generalize hw₃ : List.foldl World.notice w₂ _ = w₃ at hbuilt
  obtain ⟨c, hc, hsides⟩ := OutputFilters.exists_build m.entries m.extraNames
  obtain ⟨v, hv, hholds⟩ := OutputFilters.exists_snapshot hsides
  rw [← hm] at hholds
  have hfilters : m.filters.outcome = .ok c := hc
  have hdata : v.IsData false ↔ ¬ ConfiguresUnwritable entries :=
    snapshot_iff_not_configuresName hholds (Value.hereditary_isData false)
  have hshowable : v.isShowable = true ↔ ¬ ConfiguresLong entries :=
    snapshot_iff_not_configuresName hholds Value.hereditary_isShowable
  have hmatches : ∃ matched : Side → String → Bool,
      (∀ s n, matched s n = true ↔
        SideMatches entries (overrideOf x.excludes x.includes s) s x.typeName n) ∧
      ∀ s n, (c.side s).matchesType (typeIdOf x.typeName) (.text n) = .ok (matched s n) := by
    obtain ⟨c', hc', hmatches⟩ := m.exists_filters
    obtain rfl := Except.ok.inj (hfilters.symm.trans hc')
    choose matched hmatched hiff using fun s => hmatches s x.typeName
    exact ⟨matched, fun s n => (hiff s n).trans (hm ▸ sideMatches_iff.symm), hmatched⟩
  obtain ⟨matched, hiff, hmatched⟩ := hmatches
  have hrun : run w arguments = useConfiguration x w₂ m := by
    rw [run, hx]
    show runOptions w x = _
    rw [runOptions, hsetup, andThen, withNotices, hbuild, hw₂]
  have hread : ConfiguresUnwritable entries → ReadsToml w₁.files x.config := by
    intro hconfigures
    by_contra htoml
    exact not_configuresUnwritable (isData_fileEntries hfile fun h => absurd h htoml) hconfigures
  -- logging changes neither colours nor layers
  have hcolor₃ : w₃.color = w₁.color := hbuilt.color.trans hloaded.color
  refine ⟨(useConfiguration x w₂ m).1, (useConfiguration x w₂ m).2, matched, _, hrun, hiff, rfl, ?_⟩
  refine ⟨?_, hread⟩
  cases hvalidate : x.validate with
  | true =>
    have hchecked := check_spec w₂ matched hvalidate
      (congrArg MergedConfiguration.configuration hm)
    rw [hloaded.color] at hchecked
    rw [useConfiguration, if_pos hvalidate]
    simpa [ite_not] using hchecked
  | false =>
    have huse : useConfiguration x w₂ m = answer w₃ x c := by
      rw [useConfiguration, hvalidate, withNotices, hfilters, hw₃]
      rfl
    rw [huse, ← hcolor₃]
    simpa using answer_spec (w := w₃) hvalidate hv hdata hshowable hmatched
      (issueMessages m.configuration)

/-- A document with a time of day among the excluded names. -/
def timedText : List Char := "[excludes]\nA = [07:32:00]\n".toList

/-- A directory with the document. -/
def timed : World :=
  .start { Terminal.Environment.bare with noColor := some "1" }
    { FileTree.empty "/work" with
      nodes := [(["a.toml"], .file 0)]
      contents := [[91, 101, 120, 99, 108, 117, 100, 101, 115, 93, 10, 65, 32, 61, 32, 91, 48, 55,
        58, 51, 50, 58, 48, 48, 93, 10]] }

/-- The entries of the document. -/
def timedEntries : List (Value × Value) :=
  [(.text "excludes", .mapping none false
    [(.text "A", .list none [.clock none ⟨7, 32, 0, 0⟩])])]

/-- A time of day among the names keeps a run from showing the filters. -/
theorem run_of_loaded_timed :
    (fileEntries timed.files (some "a.toml")).outcome = .ok timedEntries ∧
      ∃ w', run timed ["-c", "a.toml", "--show"] = (w', .crash .unrepresentable) := by
  have hx : parseOptions ["-c", "a.toml", "--show"] =
      .ok { Options.none with config := some "a.toml", showFilters := true } := by
    cbv
  have hfound : DocumentFound timed.files "a.toml" ⟨.here, ["a.toml"]⟩ .toml timedText :=
    ⟨⟨by decide, by decide⟩, _, rfl, by cbv⟩
  have hread : FileFormat.toml.read timedText = .ok (.mapping none false timedEntries) := by cbv
  have hentries : (fileEntries timed.files (some "a.toml")).outcome = .ok timedEntries :=
    outcome_fileEntries_of_table (by decide) hfound hread
  refine ⟨hentries, ?_⟩
  have hcolor : timed.color.force timed.environment .null =
      .ok ⟨some (.bool false), .bool false, 1⟩ := force_colorless
  have hsetup := World.setUpLog_of_no_file (w := timed)
    (s := logSettings { Options.none with config := some "a.toml", showFilters := true })
    hcolor rfl rfl rfl
  obtain ⟨w', ending, matched, lines, hrun, -, -, hending, -⟩ := run_of_loaded timed _ hx
    (by simp [Options.none]) (by decide) (by rw [hsetup]; exact hentries)
  have hnames : ConfiguredNames "A" [(.text "A", .list none [.clock none ⟨7, 32, 0, 0⟩])]
      [.clock none ⟨7, 32, 0, 0⟩] :=
    @ConfiguredNames.last "A" [] [] _ _ _ rfl rfl (by simp) (by simp)
  have hunwritable : ConfiguresUnwritable timedEntries :=
    ⟨.excludes, _, _, "A", _, by cbv, rfl, hnames, _, List.mem_singleton_self _, by simp⟩
  obtain ⟨f, rfl⟩ := hending.exists_crash _ (.unwritable ⟨rfl, rfl, hunwritable⟩)
  have hshort : ¬ ShowsLong { Options.none with config := some "a.toml", showFilters := true }
      timedEntries := by
    rintro (⟨h, -⟩ | ⟨-, -, hlong⟩)
    · simp [Options.none] at h
    · obtain ⟨e, he, sub, hsub, e', he', names, hlisted, n, hn, hlong⟩ := hlong.exists_entry
      obtain rfl : e = _ := List.mem_singleton.mp he
      simp only [Value.entries?, Option.some.injEq] at hsub
      subst hsub
      obtain rfl : e' = _ := List.mem_singleton.mp he'
      simp only [propertyNames?, Option.some.injEq] at hlisted
      subst hlisted
      obtain rfl : n = _ := List.mem_singleton.mp hn
      simp [Value.isShowable] at hlong
  cases hending.crash f rfl with
  | unwritable h => exact ⟨w', hrun⟩
  | long h => exact absurd h hshort
  | jam hshown => exact absurd ⟨rfl, rfl, hunwritable⟩ hshown

end PropertyFilter.Command
