import PropertyFilter.Proofs.Command.Loading
import PropertyFilter.Proofs.Command.Runs
import PropertyFilter.Proofs.Format.Data
import PropertyFilter.Proofs.Log.Details

/-!
# Logging and the results of a run

What a run prints and how it ends do not depend on what it logs, nor on where the log goes. Two
command lines that differ in these wishes only have the same results, if set-up leaves what is read
of the configuration: a log file has to be made before the configuration is loaded, and the first
details go to it.

## Main definitions

* `ReadsAlike config t t'`: the same is read of the configuration in two file trees
* `LeavesConfiguration w x`: setting up the log leaves what is read of the configuration

## Main results

* `fileEntries_of_readsAlike`: what is read decides what is loaded
* `printsAlike_useConfiguration`: what two runs do with a configuration
* `LeavesConfiguration.of_room`: a log file with room for the first details, beside the
  configuration
* `run_logging`: two runs, from their command lines to the output
* `run_logging_onto_configuration`: a log file that is the configuration itself
-/

namespace PropertyFilter.Command

open World (Paired PrintsAlike LogSettings)

variable {w w₁ w₂ : World} {x x' : Options} {t t' : FileTree} {config : Option String}

/-! ## The configuration -/

/-- The same is read of the configuration in two file trees. -/
def ReadsAlike (config : Option String) (t t' : FileTree) : Prop :=
  ∀ path ∈ config, path ≠ "" →
    ∀ p, (Path.ofText path).expandHome t.home? = .ok p → t'.read p = t.read p

theorem ReadsAlike.of_eq (h : t' = t) : ReadsAlike config t t' := fun _ _ _ _ _ => h ▸ rfl

theorem readTable_of_read {p : Path} (h : t'.read p = t.read p) :
    readTable t' p = readTable t p := by
  simp only [readTable, readFile, readCharacters, h]

/-- **What is read of the configuration** decides what is loaded. -/
theorem fileEntries_of_readsAlike (h : ReadsAlike config t t') (hhome : t'.home? = t.home?) :
    fileEntries t' config = fileEntries t config := by
  unfold fileEntries
  split
  · rfl
  · rfl
  · next path hpath =>
    have hload : loadConfiguration t' path = loadConfiguration t path := by
      unfold loadConfiguration
      rw [hhome]
      cases hp : (Path.ofText path).expandHome t.home? with
      | error e => rfl
      | ok p => simp only [readTable_of_read (h path rfl (by simpa using hpath) p hp)]
    rw [hload]

/-- Setting up the log leaves what is read of the configuration. -/
structure LeavesConfiguration (w : World) (x : Options) : Prop where
  /-- A log file is made, and so are the directories on the way to it. -/
  created : ∀ path ∈ x.logFile, path ≠ "" → ReadsAlike x.config w.files
    (FileLog.start w.files path LogSettings.standard.maxBytes LogSettings.standard.backups).1
  /-- Details of set-up go to the log file. -/
  written : x.verbose = true → x.logFile.getD "" ≠ "" →
    ReadsAlike x.config w.files (w.setUpLog (logSettings x)).1.files

/-- What is read of the configuration after set-up. -/
theorem LeavesConfiguration.readsAlike (h : LeavesConfiguration w x) :
    ReadsAlike x.config w.files (w.setUpLog (logSettings x)).1.files := by
  obtain ⟨color, hforce⟩ := exists_force w x
  by_cases hfile : x.logFile.getD "" = ""
  · exact .of_eq (World.files_setUpLog_of_console hforce rfl hfile)
  · cases hverbose : x.verbose with
    | true => exact h.written hverbose hfile
    | false =>
      obtain ⟨path, hpath, hne⟩ := World.exists_logFile_of_ne hfile
      rw [World.files_setUpLog_of_info hforce rfl hverbose hpath hne]
      exact h.created path hpath hne

/-- What is loaded after set-up is what was there before it. -/
theorem LeavesConfiguration.buildConfiguration_eq (h : LeavesConfiguration w x)
    (excludes includes : Option String) :
    buildConfiguration (w.setUpLog (logSettings x)).1.files x.config excludes includes =
      buildConfiguration w.files x.config excludes includes := by
  obtain ⟨color, hforce⟩ := exists_force w x
  have hroots := World.sameRoots_setUpLog (s := logSettings x) hforce
  rw [buildConfiguration, buildConfiguration, fileEntries_of_readsAlike h.readsAlike hroots.home?]

/-- A log file with room for the details of set-up leaves what is read of the configuration, unless
that is the log file itself. -/
theorem LeavesConfiguration.of_room {color : Terminal.ColorState}
    (hcolor : w.color.force w.environment (logSettings x).forceColor = .ok color) {path : String}
    (hfile : x.logFile = some path) (hpath : path ≠ "") {l : FileLog} {i : Nat}
    (hstart : FileLog.start w.files path LogSettings.standard.maxBytes
      LogSettings.standard.backups = (t, .ok l))
    (hstream : l.stream = some i) (hblocked : l.isBlocked t = false)
    (hroom : l.isFull t ((World.detail (World.openReport path)).length +
      (Text.encodeUtf8 (World.detail (World.openReport path))).length +
      (World.detail (World.colorReport color (logSettings x).forceColor)).length) = false)
    (hcreated : ReadsAlike x.config w.files t)
    (hapart : ∀ path ∈ x.config, ∀ p, (Path.ofText path).expandHome w.files.home? = .ok p →
      ∀ place, t.resolve p = .ok place → t.fileAt place ≠ .ok i) :
    LeavesConfiguration w x where
  created path' hpath' _ := by
    obtain rfl := Option.some.inj (hfile.symm.trans hpath')
    rw [hstart]
    exact hcreated
  written hverbose _ path' hpath' hne p hp := by
    have happ := hapart path' hpath' p hp
    rw [World.files_setUpLog_of_room hcolor rfl hverbose hfile hpath hstart hstream hblocked hroom,
      FileTree.read_appendTo, FileTree.read_appendTo happ]
    · exact hcreated path' hpath' hne p hp
    · intro place hplace
      rw [FileTree.resolve_appendTo] at hplace
      exact happ place hplace

/-! ## Actions -/

theorem printsAlike_check (h : PrintsAlike w₁ w₂) (configuration : Value) :
    Paired PrintsAlike (check w₁ configuration) (check w₂ configuration) := by
  unfold check
  rw [h.color]
  cases report configuration with
  | error e => exact ⟨h, rfl⟩
  | ok messages =>
    cases messages with
    | nil => exact paired_endWith 0 (h.printLine _)
    | cons message messages => exact paired_endWith 1 (h.printLines _)

theorem printsAlike_showVerdicts (h : PrintsAlike w₁ w₂) (c : OutputFilters)
    (typeName : Option String) (names : List String) :
    Paired PrintsAlike (showVerdicts w₁ c typeName names) (showVerdicts w₂ c typeName names) := by
  refine paired_showVerdicts c (fun h _ v => ?_) h
  rw [h.color]
  exact h.printLine _

theorem printsAlike_answer (h : PrintsAlike w₁ w₂) (x : Options) (c : OutputFilters) :
    Paired PrintsAlike (answer w₁ x c) (answer w₂ x c) :=
  paired_answer c (fun h => paired_showFilters c (fun _ text _ => h.write text) h)
    (fun h => printsAlike_showVerdicts h c x.typeName x.properties)
    (fun h => h.logText infoLevel logger nothingToDo) h

/-- **What two runs do with a configuration** after they have logged what they wished. -/
theorem printsAlike_useConfiguration (h : PrintsAlike w₁ w₂) (x : Options)
    (m : MergedConfiguration) :
    Paired PrintsAlike (useConfiguration x w₁ m) (useConfiguration x w₂ m) := by
  unfold useConfiguration
  cases x.validate with
  | true => exact printsAlike_check h m.configuration
  | false =>
    simp only [Bool.false_eq_true, if_false, withNotices]
    cases m.filters.outcome with
    | ok c => exact printsAlike_answer (h.notices m.filters.notices) x c
    | error error =>
      cases error with
      | argument e => exact ⟨(h.notices _).logText errorLevel logger _, rfl⟩
      | fault e => exact ⟨h.notices _, rfl⟩

/-! ## Runs -/

/-- **Two runs**, once options are known. -/
theorem printsAlike_runOptions {verbose : Bool} {logFile : Option String}
    (hnull : ∀ path ∈ x.logFile, NoNull path) (hnull' : ∀ path ∈ logFile, NoNull path)
    (hbase : NoNull w.files.base) (hlog : LeavesConfiguration w x)
    (hlog' : LeavesConfiguration w { x with verbose := verbose, logFile := logFile }) :
    Paired PrintsAlike (runOptions w x)
      (runOptions w { x with verbose := verbose, logFile := logFile }) := by
  obtain ⟨color, hforce⟩ := exists_force w x
  obtain ⟨w₁, hsetup₁, hstdout₁, hcolor₁, hquiet₁⟩ := World.setUpLog_spec hforce rfl hnull hbase
  obtain ⟨w₂, hsetup₂, hstdout₂, hcolor₂, hquiet₂⟩ := World.setUpLog_spec
    (s := logSettings { x with verbose := verbose, logFile := logFile }) hforce rfl hnull' hbase
  have h : PrintsAlike w₁ w₂ :=
    ⟨hstdout₁.trans hstdout₂.symm, hcolor₁.trans hcolor₂.symm, hquiet₁, hquiet₂⟩
  have hbuild₁ := hlog.buildConfiguration_eq x.excludes x.includes
  have hbuild₂ := hlog'.buildConfiguration_eq x.excludes x.includes
  rw [hsetup₁] at hbuild₁
  rw [hsetup₂] at hbuild₂
  dsimp only at hbuild₁ hbuild₂
  rw [runOptions, runOptions, hsetup₁, hsetup₂]
  simp only [andThen, withNotices, hbuild₁, hbuild₂]
  generalize buildConfiguration w.files x.config x.excludes x.includes = built
  obtain ⟨notices, outcome⟩ := built
  have hnoticed := h.notices notices
  cases outcome with
  | ok m => exact printsAlike_useConfiguration hnoticed x m
  | error error =>
    cases error with
    | fault f => exact ⟨hnoticed, rfl⟩
    | _ => exact ⟨hnoticed.logText errorLevel logger _, rfl⟩

/-- **Logging does not change results.** Two command lines that differ only in whether details are
logged and in the log file have the same output and the same ending, whether the log files can be
opened or not, if their paths are paths and set-up leaves what is read of the configuration. -/
theorem run_logging (w : World) {arguments arguments' : List String}
    (hx : parseOptions arguments = .ok x) (hx' : parseOptions arguments' = .ok x')
    (hsame : x' = { x with verbose := x'.verbose, logFile := x'.logFile })
    (hnull : ∀ path ∈ x.logFile, NoNull path) (hnull' : ∀ path ∈ x'.logFile, NoNull path)
    (hbase : NoNull w.files.base) (hlog : LeavesConfiguration w x)
    (hlog' : LeavesConfiguration w x') :
    ∃ w₁ w₂ ending, run w arguments = (w₁, ending) ∧ run w arguments' = (w₂, ending) ∧
      w₁.stdout = w₂.stdout := by
  have hrun : run w arguments = runOptions w x := by rw [run, hx]
  have hrun' : run w arguments' = runOptions w x' := by rw [run, hx']
  rw [hsame] at hrun' hlog'
  obtain ⟨hprinted, hending⟩ := printsAlike_runOptions hnull hnull' hbase hlog hlog'
  rw [hrun, hrun']
  exact ⟨_, _, _, rfl, Prod.ext rfl hending.symm, hprinted.stdout⟩

/-- A directory with an empty table. -/
def emptyTable : World :=
  .start { Terminal.Environment.bare with noColor := some "1" }
    { FileTree.empty "/work" with nodes := [(["a.json"], .file 0)], contents := [[0x7b, 0x7d]] }

theorem force_emptyTable : emptyTable.color.force emptyTable.environment .null =
    .ok ⟨some (.bool false), .bool false, 1⟩ := force_colorless

/-- Details go to a new log file beside the configuration. -/
theorem run_logging_beside :
    ∃ w₁ w₂ ending,
      run emptyTable ["-v", "--log-file", "log", "-c", "a.json", "-p", "x"] = (w₁, ending) ∧
      run emptyTable ["-c", "a.json", "-p", "x"] = (w₂, ending) ∧ w₁.stdout = w₂.stdout := by
  have hx : parseOptions ["-v", "--log-file", "log", "-c", "a.json", "-p", "x"] =
      .ok { Options.none with verbose := true, logFile := some "log", config := some "a.json",
                              properties := ["x"] } := by
    cbv
  have hx' : parseOptions ["-c", "a.json", "-p", "x"] =
      .ok { Options.none with config := some "a.json", properties := ["x"] } := by
    cbv
  have hstart : FileLog.start emptyTable.files "log" LogSettings.standard.maxBytes
      LogSettings.standard.backups =
        ({ emptyTable.files with
            nodes := [(["log"], .file 1), (["a.json"], .file 0)]
            contents := [[0x7b, 0x7d], []] },
          .ok ⟨⟨.named "/work" [], ["log"]⟩, 5 * 1024 * 1024, 3, some 1⟩) := by
    have hpath : Path.ofText "log" = ⟨.here, ["log"]⟩ := by decide
    rw [FileLog.start, hpath]
    rfl
  have hconfig : (Path.ofText "a.json").expandHome emptyTable.files.home? =
      .ok ⟨.here, ["a.json"]⟩ := by decide
  have hlog : LeavesConfiguration emptyTable
      { Options.none with verbose := true, logFile := some "log", config := some "a.json",
                          properties := ["x"] } := by
    refine .of_room force_emptyTable rfl (by decide) hstart rfl rfl ?_ ?_ ?_
    · rw [FileLog.isFull_eq_false_iff rfl, Text.length_encodeUtf8]
      decide
    · rintro path hpath - p hp
      obtain rfl := Option.some.inj hpath
      obtain rfl := Except.ok.inj (hconfig.symm.trans hp)
      rfl
    · intro path hpath p hp place hplace
      obtain rfl := Option.some.inj hpath
      obtain rfl := Except.ok.inj (hconfig.symm.trans hp)
      obtain rfl := Except.ok.inj hplace
      decide
  exact run_logging emptyTable hx hx' rfl (by decide) (by simp [Options.none]) (by decide) hlog
    ⟨by simp [Options.none], by simp [Options.none]⟩

/-! ## Details in the configuration itself -/

/-- The details of set-up behind the table. -/
def detailedTable : List UInt8 :=
  [0x7b, 0x7d] ++ Text.encodeUtf8 (World.detail (World.openReport "a.json")) ++
    Text.encodeUtf8 (World.detail "Color support: False (auto)")

theorem loadReported_detailedTable {files : FileTree}
    (hfiles : files = { emptyTable.files with contents := [detailedTable] }) :
    LoadReported files "a.json" (.malformed "a.json") := by
  have hfound : FileFound files "a.json" ⟨.here, ["a.json"]⟩ .json := by
    rw [hfiles]
    exact ⟨by decide, by decide⟩
  have hoctets : files.read ⟨.here, ["a.json"]⟩ = .ok detailedTable := by
    rw [hfiles]
    rfl
  have htext : Text.decodeUtf8 detailedTable =
      some ('{' :: '}' :: '1' :: (World.detail (World.openReport "a.json") ++
        World.detail "Color support: False (auto)").toList.tail) := by
    decide +kernel
  have hread : ∀ cs, FileFormat.json.read ('{' :: '}' :: '1' :: cs) = .error .malformed := by
    intro cs
    have hlines : asLines ('{' :: '}' :: '1' :: cs) = '{' :: '}' :: '1' :: asLines cs := by
      simp [asLines]
    rw [FileFormat.read, hlines]
    exact Json.read_emptyTable_cons rfl _
  exact .malformed ⟨hfound, _, hoctets, htext⟩ (hread _)

/-- The configuration is named as the log file too. -/
def loggedOnto (verbose : Bool) : Options :=
  { Options.none with config := some "a.json", logFile := some "a.json", properties := ["x"],
                      verbose := verbose }

theorem start_loggedOnto :
    FileLog.start emptyTable.files "a.json" LogSettings.standard.maxBytes
      LogSettings.standard.backups =
        (emptyTable.files, .ok ⟨⟨.named "/work" [], ["a.json"]⟩, 5 * 1024 * 1024, 3, some 0⟩) := by
  have hpath : Path.ofText "a.json" = ⟨.here, ["a.json"]⟩ := by decide
  rw [FileLog.start, hpath]
  rfl

/-- Without details, the table is loaded. -/
theorem fileEntries_loggedOnto :
    (fileEntries (emptyTable.setUpLog (logSettings (loggedOnto false))).1.files
      (some "a.json")).outcome = .ok [] := by
  have hfound : DocumentFound emptyTable.files "a.json" ⟨.here, ["a.json"]⟩ .json ['{', '}'] :=
    ⟨⟨by decide, by decide⟩, [0x7b, 0x7d], rfl, by decide⟩
  have hread : FileFormat.json.read ['{', '}'] = .ok (.mapping none false []) := by cbv
  have hfiles := World.files_setUpLog_of_info (w := emptyTable)
    (s := logSettings (loggedOnto false)) force_emptyTable rfl rfl rfl (by decide)
  have hstart : (emptyTable.setUpLog (logSettings (loggedOnto false))).1.files =
      emptyTable.files := hfiles.trans (congrArg Prod.fst start_loggedOnto)
  rw [hstart]
  exact outcome_fileEntries_of_table (by decide) hfound hread

/-- **Details may go to the configuration itself**, which is no table any more when it is loaded.
Making the log file changes nothing then. -/
theorem run_logging_onto_configuration :
    parseOptions ["-c", "a.json", "--log-file", "a.json", "-p", "x"] = .ok (loggedOnto false) ∧
      parseOptions ["-v", "-c", "a.json", "--log-file", "a.json", "-p", "x"] =
        .ok (loggedOnto true) ∧
      NoNull "a.json" ∧ NoNull emptyTable.files.base ∧
      (FileLog.start emptyTable.files "a.json" LogSettings.standard.maxBytes
        LogSettings.standard.backups).1 = emptyTable.files ∧
      (run emptyTable ["-c", "a.json", "--log-file", "a.json", "-p", "x"]).2 = .status 0 ∧
      (run emptyTable ["-v", "-c", "a.json", "--log-file", "a.json", "-p", "x"]).2 =
        .status 1 := by
  have hx : parseOptions ["-c", "a.json", "--log-file", "a.json", "-p", "x"] =
      .ok (loggedOnto false) := by
    cbv
  have hx' : parseOptions ["-v", "-c", "a.json", "--log-file", "a.json", "-p", "x"] =
      .ok (loggedOnto true) := by
    cbv
  refine ⟨hx, hx', by decide, by decide, congrArg Prod.fst start_loggedOnto, ?_, ?_⟩
  · obtain ⟨-, hcolor, -⟩ := World.unprinted_setUpLog (w := emptyTable)
      (s := logSettings (loggedOnto false)) force_emptyTable rfl
    obtain ⟨w', matched, hrun, -⟩ := runOptions_of_plain (w := emptyTable) rfl rfl
      (over_parseOptions hx (by decide)) (by decide) (by decide) (by rw [hcolor]; rfl)
      fileEntries_loggedOnto
    rw [run, hx]
    simp only [hrun]
  · have hfiles := World.files_setUpLog_of_room (w := emptyTable)
      (s := logSettings (loggedOnto true)) force_emptyTable rfl rfl rfl (by decide)
      start_loggedOnto rfl rfl (by
        rw [FileLog.isFull_eq_false_iff rfl, Text.length_encodeUtf8]
        decide)
    obtain ⟨w', hsetup, -⟩ := World.setUpLog_spec (w := emptyTable)
      (s := logSettings (loggedOnto true)) force_emptyTable rfl (by decide) (by decide)
    rw [hsetup] at hfiles
    rw [run_of_load_error hx' rfl (by decide) hsetup (loadReported_detailedTable hfiles).outcome]
    rfl

end PropertyFilter.Command
