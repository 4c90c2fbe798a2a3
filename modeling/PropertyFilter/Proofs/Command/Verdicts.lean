import PropertyFilter.Command.Run
import PropertyFilter.Proofs.Command.Arguments
import PropertyFilter.Proofs.Command.Overrides
import PropertyFilter.Proofs.Log.Setup
import PropertyFilter.Proofs.Terminal.Deletion

/-!
# Verdicts on the command line

With colours off, a run that neither checks nor shows filters prints one line for each property, and
ends well. What the line says follows from the file and the overrides alone.

## Main definitions

* `verdictLine`, `verdictLines`: verdicts without colours

## Main results

* `showVerdicts_of_plain`: the lines that are printed for properties
* `run_verdicts`: a run from its command line to its output
* `run_of_badPath`: a run whose log file has no proper path
-/

namespace PropertyFilter.Command

open OutputFilters (typeIdOf)
open Terminal (esc)

/-- A verdict without colours. -/
def verdictLine (typeName : Option String) (n : String) (excluded included : Bool) : String :=
  Verdict.owner typeName ++ "." ++ n ++ ": " ++ (if excluded then "excluded" else "not excluded")
    ++ ", " ++ (if included then "included" else "not included")

/-- The lines for all properties, in order. -/
def verdictLines (typeName : Option String) (matched : Side → String → Bool)
    (names : List String) : List Char :=
  names.flatMap fun n =>
    (verdictLine typeName n (matched .excludes n) (matched .includes n)).toList ++ ['\n']

/-- A text without escape characters. -/
abbrev Plain (s : String) : Prop := TextOver (· ≠ esc) s

theorem plain_verdictLine {typeName : Option String} {n : String}
    (htype : ∀ t ∈ typeName, Plain t) (hn : Plain n) (excluded included : Bool) :
    Plain (verdictLine typeName n excluded included) := by
  have howner : Plain (Verdict.owner typeName) := by
    unfold Verdict.owner
    split
    · simp [TextOver, esc]
    · simp [TextOver, esc]
    · next t _ => exact htype t rfl
  have hexcluded : Plain (if excluded then "excluded" else "not excluded") := by
    cases excluded <;> simp [TextOver, esc]
  have hincluded : Plain (if included then "included" else "not included") := by
    cases included <;> simp [TextOver, esc]
  have hmarks : Plain "." ∧ Plain ": " ∧ Plain ", " := by simp [TextOver, esc]
  have hproperty := (howner.append hmarks.1).append hn
  exact (((hproperty.append hmarks.2.1).append hexcluded).append hmarks.2.2).append hincluded

variable {w : World} {c : OutputFilters} {typeName : Option String}

theorem printLine_of_plain {s : String} (hs : Plain s) :
    w.printLine s = (w.put .stdout (s.toList ++ ['\n']), none) := by
  have hesc : esc ∉ s.toList := fun h => hs esc h rfl
  simp [World.printLine, Terminal.deliverLine_of_plain hesc]

theorem describeProperty_of_off {color : Terminal.ColorState} (hcolor : color.isOn = false)
    {matched : Side → String → Bool} {n : String}
    (hmatched : ∀ s, (c.side s).matchesType (typeIdOf typeName) (.text n) = .ok (matched s n)) :
    describeProperty color c typeName (.text n) =
      .ok (verdictLine typeName n (matched .excludes n) (matched .includes n)) := by
  have hverdict : c.verdict typeName (.text n) =
      .ok ⟨matched .excludes n, matched .includes n⟩ := by
    have hexcludes : c.excludes.matchesType _ _ = _ := hmatched .excludes
    have hincludes : c.includes.matchesType _ _ = _ := hmatched .includes
    rw [OutputFilters.verdict, hexcludes, hincludes]
    rfl
  have hword : ∀ (matched : Bool) (yes no : String),
      color.verdict matched yes no = if matched then yes else no := by
    intro matched yes no
    simp [Terminal.ColorState.verdict, Terminal.ColorState.colored_off hcolor]
  rw [describeProperty, hverdict, Except.map, Verdict.line, hword, hword]
  rfl

/-- **The lines for properties** are printed in order, and nothing fails. -/
theorem showVerdicts_of_plain (hcolor : w.color.isOn = false) (htype : ∀ t ∈ typeName, Plain t)
    {matched : Side → String → Bool}
    (hmatched : ∀ s n, (c.side s).matchesType (typeIdOf typeName) (.text n) = .ok (matched s n))
    {names : List String} (hnames : ∀ n ∈ names, Plain n) :
    showVerdicts w c typeName names =
      (w.put .stdout (verdictLines typeName matched names), none) := by
  induction names generalizing w with
  | nil => simp [showVerdicts, verdictLines, World.put]
  | cons n names ih =>
    rw [List.forall_mem_cons] at hnames
    have hline : Plain (verdictLine typeName n (matched .excludes n) (matched .includes n)) :=
      plain_verdictLine htype hnames.1 _ _
    have hrest := fun cs => ih (w := w.put .stdout cs) hcolor hnames.2
    rw [showVerdicts, describeProperty_of_off hcolor (hmatched · n)]
    simp only [printLine_of_plain hline, hrest]
    simp [verdictLines, World.put]

/-! ## Runs -/

/-- What is shown where no filters are asked for: a hint goes to the log if no property is named. -/
theorem answer_of_plain {x : Options} (hshow : x.showFilters = false) (hq : w.Quiet)
    (hcolor : w.color.isOn = false) (hx : x.Over (· ≠ esc)) {matched : Side → String → Bool}
    (hmatched : ∀ s n,
      (c.side s).matchesType (typeIdOf x.typeName) (.text n) = .ok (matched s n)) :
    ∃ w', answer w x c = (w', .status 0) ∧
      w'.stdout = w.stdout ++ verdictLines x.typeName matched x.properties := by
  unfold answer
  rw [hshow]
  simp only [Bool.false_eq_true, if_false, andThen,
    showVerdicts_of_plain hcolor hx.typeName hmatched hx.properties]
  split
  · obtain ⟨hlog, -⟩ := World.unprinted_logText
      (w := w.put .stdout (verdictLines x.typeName matched x.properties)) hq infoLevel logger
      nothingToDo
    exact ⟨_, rfl, hlog.stdout⟩
  · exact ⟨_, rfl, rfl⟩

/-- A run with given options, after the log has been set up. -/
theorem useConfiguration_of_plain {x : Options} (hvalidate : x.validate = false)
    (hshow : x.showFilters = false) (hq : w.Quiet) (hcolor : w.color.isOn = false)
    (hx : x.Over (· ≠ esc)) (m : MergedConfiguration) :
    ∃ w' matched, useConfiguration x w m = (w', .status 0) ∧
      (∀ s n, matched s n = true ↔ m.Matches s x.typeName n) ∧
      w'.stdout = w.stdout ++ verdictLines x.typeName matched x.properties := by
  obtain ⟨c, hc, hmatches⟩ := m.exists_filters
  choose matched hmatched hiff using fun s => hmatches s x.typeName
  obtain ⟨hnotices, hquiet⟩ := World.unprinted_notices hq m.filters.notices
  rw [← hnotices.color] at hcolor
  obtain ⟨w', hanswer, hstdout⟩ := answer_of_plain hshow hquiet hcolor hx hmatched
  refine ⟨w', matched, ?_, hiff, hstdout.trans (by rw [hnotices.stdout])⟩
  rw [useConfiguration, hvalidate, withNotices, hc]
  exact hanswer

/-- The options ask for a wish that colours can be forced by. -/
theorem exists_force (w : World) (x : Options) :
    ∃ color, w.color.force w.environment (logSettings x).forceColor = .ok color := by
  unfold logSettings
  cases x.noColor with
  | false => exact ⟨_, rfl⟩
  | true =>
    simp [Terminal.ColorState.force, Terminal.ColorState.target?, Value.same_bool_self]

/-- **A run with given options** that neither checks nor shows filters. -/
theorem runOptions_of_plain {x : Options} {entries : List (Value × Value)}
    (hvalidate : x.validate = false) (hshow : x.showFilters = false) (hx : x.Over (· ≠ esc))
    (hnull : ∀ path ∈ x.logFile, NoNull path) (hbase : NoNull w.files.base)
    (hcolor : (w.setUpLog (logSettings x)).1.color.isOn = false)
    (hfile : (fileEntries (w.setUpLog (logSettings x)).1.files x.config).outcome = .ok entries) :
    ∃ w' matched, runOptions w x = (w', .status 0) ∧
      (∀ s n, matched s n = true ↔
        SideMatches entries (overrideOf x.excludes x.includes s) s x.typeName n) ∧
      w'.stdout = w.stdout ++ verdictLines x.typeName matched x.properties := by
  obtain ⟨color, hforce⟩ := exists_force w x
  obtain ⟨w₁, hsetup, hstdout, -, hq⟩ := World.setUpLog_spec hforce rfl hnull hbase
  rw [hsetup] at hcolor hfile
  obtain ⟨hnotices, hquiet⟩ := World.unprinted_notices hq
    (buildConfiguration w₁.files x.config x.excludes x.includes).notices
  have hbuild : (buildConfiguration w₁.files x.config x.excludes x.includes).outcome =
      .ok (mergeOverrides entries x.excludes x.includes) := by
    rw [outcome_buildConfiguration, hfile]
    rfl
  obtain ⟨w', matched, huse, hmatched, hprinted⟩ := useConfiguration_of_plain hvalidate hshow hquiet
    (hnotices.color ▸ hcolor) hx (mergeOverrides entries x.excludes x.includes)
  refine ⟨w', matched, ?_, fun s n => (hmatched s n).trans sideMatches_iff.symm, ?_⟩
  · rw [runOptions, hsetup, andThen, withNotices, hbuild]
    exact huse
  · rw [hprinted, hnotices.stdout, hstdout]

/-- **Verdicts, from the command line to the output.** A command line that is accepted and asks
neither for a check nor for the filters ends well, if its log file has a proper path and the
configuration can be loaded once the log is set up. With colours off, it prints one line for each
property, in order: a side matches if the name is built in, an override lists it, the file lists it
and there is no override, or the file configures it for the type that is given. -/
theorem run_verdicts (w : World) (arguments : List String) {x : Options}
    {entries : List (Value × Value)} (hx : parseOptions arguments = .ok x)
    (hvalidate : x.validate = false) (hshow : x.showFilters = false)
    (hplain : ∀ a ∈ arguments, Plain a) (hnull : ∀ path ∈ x.logFile, NoNull path)
    (hbase : NoNull w.files.base)
    (hcolor : (w.setUpLog (logSettings x)).1.color.isOn = false)
    (hfile : (fileEntries (w.setUpLog (logSettings x)).1.files x.config).outcome = .ok entries) :
    ∃ (w' : World) (matched : Side → String → Bool), run w arguments = (w', .status 0) ∧
      (∀ s n, matched s n = true ↔
        SideMatches entries (overrideOf x.excludes x.includes s) s x.typeName n) ∧
      w'.stdout = w.stdout ++ verdictLines x.typeName matched x.properties := by
  obtain ⟨w', matched, hrun, hmatched, hprinted⟩ := runOptions_of_plain hvalidate hshow
    (over_parseOptions hx hplain) hnull hbase hcolor hfile
  refine ⟨w', matched, ?_, hmatched, hprinted⟩
  rw [run, hx]
  exact hrun

/-- A directory without files, and an environment that wishes for no colours. -/
def colorless : World :=
  .start { Terminal.Environment.bare with noColor := some "1" } (.empty "/work")

theorem force_colorless :
    colorless.color.force colorless.environment .null =
      .ok ⟨some (.bool false), .bool false, 1⟩ := by
  simp [colorless, World.start, Terminal.ColorState.start, Terminal.ColorState.force,
    Terminal.ColorState.target?, Terminal.ColorState.sameForced, Terminal.ColorState.decide,
    Terminal.ColorState.decision, Terminal.Environment.forced, Value.same_bool_self,
    Value.isTruthy]

theorem color_setUpLog_colorless {s : World.LogSettings} (hwish : s.forceColor = .null)
    (hstay : s.preserve = false) (hfile : s.logFile = none) :
    (colorless.setUpLog s).1.color.isOn = false := by
  obtain ⟨w', hsetup, -, hcolor, -⟩ := World.setUpLog_spec (hwish ▸ force_colorless) hstay
    (by simp [hfile]) (by decide)
  rw [hsetup, hcolor]
  rfl

/-- An override for the excluded names, where there is no file. -/
theorem run_verdicts_override :
    ∃ w', run colorless ["--excludes", "id,pw", "-t", "User", "-p", "pw", "name"] =
        (w', .status 0) ∧
      w'.stdout = ("User.pw: excluded, not included\n" ++
        "User.name: not excluded, not included\n").toList := by
  have hx : parseOptions ["--excludes", "id,pw", "-t", "User", "-p", "pw", "name"] =
      .ok { Options.none with excludes := some "id,pw", typeName := some "User",
                              properties := ["pw", "name"] } := by
    cbv
  obtain ⟨w', matched, hrun, hmatched, hprinted⟩ := run_verdicts colorless _ hx rfl rfl (by decide)
    (by simp [Options.none]) (by decide) (color_setUpLog_colorless rfl rfl rfl) rfl
  refine ⟨w', hrun, ?_⟩
  have hpw : matched .excludes "pw" = true := (hmatched _ _).mpr (.override rfl (by decide))
  have hother : ∀ s n, s = .includes ∨ n = "name" → matched s n = false := by
    intro s n hn
    rw [Bool.eq_false_iff, ne_eq, hmatched]
    rintro (⟨hs, hbuiltin⟩ | ⟨htext, hlisted⟩ | ⟨-, hside, -⟩ | ⟨hside, -, -, -, -⟩)
    · rcases hn with rfl | rfl
      · contradiction
      · simp at hbuiltin
    · rcases hn with rfl | rfl
      · contradiction
      · cases s with
        | includes => contradiction
        | excludes =>
          obtain rfl := Option.some.inj htext
          exact absurd hlisted (by decide)
    · contradiction
    · contradiction
  rw [hprinted]
  simp only [verdictLines, List.flatMap_cons, List.flatMap_nil, hpw, hother .includes _ (.inl rfl),
    hother .excludes "name" (.inr rfl)]
  rfl

/-- **A log file whose path is no path** ends a run by a fault before it prints anything. -/
theorem run_of_badPath {arguments : List String} {x : Options} {path : String}
    (hx : parseOptions arguments = .ok x) (hfile : x.logFile = some path) (hpath : path ≠ "")
    (hstart : (FileLog.start w.files path World.LogSettings.standard.maxBytes
      World.LogSettings.standard.backups).2 = .error .badPath) :
    ∃ w', run w arguments = (w', .crash .malformed) ∧ w'.stdout = w.stdout := by
  obtain ⟨color, hforce⟩ := exists_force w x
  obtain ⟨w', hsetup, -⟩ := World.setUpLog_of_badPath (s := logSettings x) hforce rfl hfile hpath
    hstart
  have hstdout := (World.unprinted_setUpLog (s := logSettings x) hforce rfl).1
  rw [hsetup] at hstdout
  have hrun : run w arguments = runOptions w x := by rw [run, hx]
  refine ⟨w', ?_, hstdout⟩
  rw [hrun, runOptions, hsetup]
  rfl

end PropertyFilter.Command
