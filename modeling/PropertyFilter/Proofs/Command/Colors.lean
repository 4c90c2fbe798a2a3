import PropertyFilter.Proofs.Command.Loading
import PropertyFilter.Proofs.Command.Messages
import PropertyFilter.Proofs.Command.Runs
import PropertyFilter.Proofs.Command.Verdicts
import PropertyFilter.Proofs.Format.Data
import PropertyFilter.Proofs.Format.Yaml.Writing
import PropertyFilter.Proofs.Log.Details
import PropertyFilter.Proofs.Log.Twins
import PropertyFilter.Proofs.Validation.Messages

/-!
# Runs with colours and without

A command line with colours forced on and the same command line with colours turned off end alike
and print the same, up to the style codes. Both load the same configuration, unless details go to a
log file: then the decision on colours itself is logged, with a text of its own.

## Main definitions

* `LoadsAlike`: the configuration loads with the same result in both runs

## Main results

* `alike_useConfiguration`: what both runs do with a configuration
* `run_colored`: both runs, from the command line to the output
* `ending_nearlyFull`: a log file that keeps both runs from loading alike
-/

namespace PropertyFilter.Command

open World (Alike Twins)
open Terminal (Environment Inert Tinted esc tinted_colored tinted_verdict)

variable {verbose : Bool} {w₁ w₂ : World} {x : Options}

/-! ## Steps -/

theorem inert_logger : TextOver Inert logger := by decide

theorem alike_fail (h : Twins verbose w₁ w₂) {text : String} (htext : TextOver Inert text) :
    Alike verbose (fail w₁ text) (fail w₂ text) :=
  ⟨h.logText (by decide) inert_logger htext, rfl⟩

/-! ## Actions -/

/-- A check prints its issues, or that there are none. -/
theorem alike_check (h : Twins verbose w₁ w₂) {configuration : Value}
    (hconfiguration : configuration.Over Inert) :
    Alike verbose (check w₁ configuration) (check w₂ configuration) := by
  have hmessages := inert_of_mem_issueMessages hconfiguration
  unfold check report
  generalize issueMessages configuration = messages at hmessages
  cases isCheckable configuration with
  | false => exact ⟨h, rfl⟩
  | true =>
    cases messages with
    | nil =>
      refine paired_endWith 0 (h.printLine ?_)
      exact tinted_colored _ h.off (Terminal.isStyle_codeText 32) (by decide) false
    | cons message messages =>
      have hlast : TextOver Inert "Configuration validation failed." := by decide
      refine paired_endWith 1 (h.printLines ?_)
      refine List.rel_append ?_ (.cons (.of_inert hlast) .nil)
      rw [List.forall₂_map_left_iff, List.forall₂_map_right_iff, List.forall₂_same]
      intro text htext
      exact tinted_colored _ h.off (Terminal.isStyle_codeText 31) (hmessages text htext) false

theorem inert_of_clear {c : Char} (hc : Yaml.Clear c) : Inert c := by
  refine ⟨?_, ?_, ?_⟩ <;>
  · rintro rfl
    exact absurd hc (by decide)

/-- Filters are shown in the same way, without colours. -/
theorem alike_showFilters (h : Twins verbose w₁ w₂) (c : OutputFilters) :
    Alike verbose (showFilters w₁ c) (showFilters w₂ c) :=
  paired_showFilters c
    (fun _ _ htext => h.write fun c hc => inert_of_clear (Yaml.clear_document htext c hc)) h

theorem inert_owner {typeName : Option String} (htype : ∀ t ∈ typeName, TextOver Inert t) :
    TextOver Inert (Verdict.owner typeName) := by
  unfold Verdict.owner
  split
  · decide
  · decide
  · next t _ => exact htype t rfl

/-- The line of a verdict with colours is the line without, with style codes. -/
theorem tinted_line (h : Twins verbose w₁ w₂) {typeName : Option String}
    (htype : ∀ t ∈ typeName, TextOver Inert t) {n : String} (hn : TextOver Inert n) (v : Verdict) :
    Tinted (v.line w₁.color typeName (.text n)).toList
      (v.line w₂.color typeName (.text n)).toList := by
  have hliteral : ∀ {s : String}, TextOver Inert s → Tinted s.toList s.toList :=
    fun hs => .of_inert hs
  have hmarks : TextOver Inert "." ∧ TextOver Inert ": " ∧ TextOver Inert ", " := by decide
  have hyes : TextOver Inert "excluded" ∧ TextOver Inert "included" := by decide
  have hno : TextOver Inert "not excluded" ∧ TextOver Inert "not included" := by decide
  have hexcluded := tinted_verdict w₁.color h.off hyes.1 hno.1 v.excluded
  have hincluded := tinted_verdict w₁.color h.off hyes.2 hno.2 v.included
  have hproperty := ((hliteral (inert_owner htype)).append (hliteral hmarks.1)).append (hliteral hn)
  have hline := (((hproperty.append (hliteral hmarks.2.1)).append hexcluded).append
    (hliteral hmarks.2.2)).append hincluded
  simp only [← String.toList_append] at hline
  exact hline

/-- Verdicts are the same, and printed with colours or without. -/
theorem alike_showVerdicts (h : Twins verbose w₁ w₂) (c : OutputFilters) {typeName : Option String}
    (htype : ∀ t ∈ typeName, TextOver Inert t) {names : List String}
    (hnames : ∀ n ∈ names, TextOver Inert n) :
    Alike verbose (showVerdicts w₁ c typeName names) (showVerdicts w₂ c typeName names) :=
  paired_showVerdicts c (fun h hn v => h.printLine (tinted_line h htype (hnames _ hn) v)) h

theorem alike_answer (h : Twins verbose w₁ w₂) (c : OutputFilters) (hx : x.Over Inert) :
    Alike verbose (answer w₁ x c) (answer w₂ x c) :=
  paired_answer c (fun h => alike_showFilters h c)
    (fun h => alike_showVerdicts h c hx.typeName hx.properties)
    (fun h => h.logText (by decide) inert_logger (by decide)) h

/-! ## Runs -/

/-- **What both runs do with a configuration.** -/
theorem alike_useConfiguration (h : Twins verbose w₁ w₂) (hx : x.Over Inert)
    {m : MergedConfiguration} (hm : ∀ e ∈ m.entries, e.1.Over Inert ∧ e.2.Over Inert) :
    Alike verbose (useConfiguration x w₁ m) (useConfiguration x w₂ m) := by
  unfold useConfiguration
  cases x.validate with
  | true =>
    refine alike_check h ?_
    rw [MergedConfiguration.configuration, Value.Over]
    exact Value.entriesOver_iff.mpr hm
  | false =>
    have hnoticed := (h.notices₁ m.filters.notices).notices₂
      (MergedConfiguration.inert_of_mem_notices hm)
    obtain ⟨c, hc, -⟩ := m.exists_filters
    simp only [Bool.false_eq_true, if_false, withNotices, hc]
    exact alike_answer hnoticed c hx

/-- Where colours are forced on, and a command line asks for none: the wish is known, and a single
layer is put around the streams. -/
theorem force_of_forced {e : Environment} (hunset : e.noColor = none)
    (hforce : e.forceColor = some "1") :
    (Terminal.ColorState.start e).force e .null = .ok ⟨some (.bool true), .bool true, 0⟩ ∧
      (Terminal.ColorState.start e).force e (.bool false) =
        .ok ⟨some (.bool false), .bool false, 1⟩ := by
  have hforced : e.forced = some (.bool true) := by
    have hword : Environment.forcingWords.contains (Text.lowercase "1") = true := by decide
    simp only [Environment.forced, hunset, hforce, Option.isSome_none, Option.getD_some, hword]
    rfl
  have hstart : Terminal.ColorState.start e = ⟨some (.bool true), .bool true, 0⟩ := by
    rw [Terminal.ColorState.start, hforced]
    rfl
  have hdifferent : (Value.bool false).same (.bool true) = false := by
    rw [Value.same_of_numeric _ rfl]
    decide +kernel
  rw [hstart]
  constructor
  · simp [Terminal.ColorState.force, Terminal.ColorState.target?, hforced,
      Terminal.ColorState.sameForced, Value.same_bool_self]
  · simp [Terminal.ColorState.force, Terminal.ColorState.target?, Terminal.ColorState.sameForced,
      Value.same_bool_self, hdifferent, Terminal.ColorState.decide, Terminal.ColorState.decision,
      Value.isTruthy]

/-- The configuration loads with the same result in two worlds. -/
def LoadsAlike (x : Options) (w₁ w₂ : World) : Prop :=
  (fileEntries w₁.files x.config).outcome = (fileEntries w₂.files x.config).outcome

/-- **Both runs**, once options are known. -/
theorem alike_runOptions {e : Environment} (hunset : e.noColor = none)
    (hforce : e.forceColor = some "1") {files : FileTree} (hhome : files.HomesOver Inert)
    (hcolored : x.noColor = false) (hx : x.Over Inert)
    (hstrings : ∀ entries,
      (fileEntries ((World.start e files).setUpLog (logSettings x)).1.files x.config).outcome =
        .ok entries → ∀ entry ∈ entries, entry.1.Over Inert ∧ entry.2.Over Inert)
    (hload : x.verbose = true → x.logFile.getD "" ≠ "" →
      LoadsAlike x ((World.start e files).setUpLog (logSettings x)).1
        ((World.start e files).setUpLog (logSettings { x with noColor := true })).1) :
    Alike x.verbose (runOptions (World.start e files) x)
      (runOptions (World.start e files) { x with noColor := true }) := by
  obtain ⟨hcolor₁, hcolor₂⟩ := force_of_forced hunset hforce
  have hwish : (logSettings x).forceColor = .null := by simp [logSettings, hcolored]
  have hsettings : logSettings { x with noColor := true } =
      { logSettings x with forceColor := .bool false } := rfl
  have hroots := World.sameRoots_setUpLog (w := World.start e files)
    (s := { logSettings x with forceColor := .bool false }) hcolor₂
  obtain ⟨⟨htwins, hfault⟩, hfiles⟩ := World.alike_setUpLog (w := World.start e files)
    (s := logSettings x) (hwish ▸ hcolor₁) hcolor₂ rfl rfl rfl (by decide) rfl rfl rfl hx.logFile
  have hsame : LoadsAlike x ((World.start e files).setUpLog (logSettings x)).1
      ((World.start e files).setUpLog (logSettings { x with noColor := true })).1 := by
    by_cases hdetails : x.verbose = true ∧ x.logFile.getD "" ≠ ""
    · exact hload hdetails.1 hdetails.2
    · have hquiet : x.verbose = false ∨ x.logFile.getD "" = "" := by
        cases hverbose : x.verbose with
        | false => exact .inl rfl
        | true => exact .inr (not_not.mp fun hfile => hdetails ⟨hverbose, hfile⟩)
      have hfiles := hfiles hquiet
      rw [LoadsAlike, hsettings]
      exact congrArg (fun files => (fileEntries files x.config).outcome) hfiles
  rw [← hsettings] at htwins hfault hroots
  -- from here on, all that counts of the two set-ups is that they end in twins
  rw [runOptions, runOptions]
  generalize (World.start e files).setUpLog (logSettings x) = r₁ at htwins hfault hsame hstrings ⊢
  generalize (World.start e files).setUpLog (logSettings { x with noColor := true }) = r₂
    at htwins hfault hroots hsame ⊢
  obtain ⟨w₁, fault⟩ := r₁
  obtain ⟨w₂, _⟩ := r₂
  obtain rfl : fault = _ := hfault
  cases fault with
  | some f => exact ⟨htwins, rfl⟩
  | none =>
    have hhome₂ : w₂.files.HomesOver Inert := by
      rw [FileTree.HomesOver, hroots.home?]
      exact hhome
    have hsame : (fileEntries w₁.files x.config).outcome =
        (fileEntries w₂.files x.config).outcome := hsame
    have hnoticed := (htwins.notices₁ (fileEntries w₁.files x.config).notices).notices₂
      (inert_of_mem_notices_fileEntries hx.config hhome₂)
    simp only [andThen, withNotices]
    rw [outcome_buildConfiguration, outcome_buildConfiguration, notices_buildConfiguration,
      notices_buildConfiguration, hsame]
    cases hload : (fileEntries w₂.files x.config).outcome with
    | ok entries =>
      have hentries := hstrings entries (hsame.trans hload)
      exact alike_useConfiguration hnoticed hx
        (over_mergeOverrides hentries hx.excludes hx.includes)
    | error error =>
      have hmessage := inert_message_of_outcome hx.config hhome₂ hload
      have htext := TextOver.append (s := "Failed to load configuration: ") (by decide) hmessage
      cases error with
      | fault f => exact ⟨hnoticed, rfl⟩
      | _ => exact alike_fail hnoticed htext

/-- **Colours do not change what is printed, from the command line to the output.** Two runs in
the same surroundings, where colours are forced on, one of whose command lines turns them off and
asks for the same otherwise: unless details go to a log file and make a difference to what is
loaded, both end alike. A layer that deletes escape sequences makes the second output of the first
and, where no details are logged, the same holds of standard error. Without colours no escape
character is written at all. -/
theorem run_colored (e : Environment) (files : FileTree) {arguments arguments' : List String}
    (hunset : e.noColor = none) (hforce : e.forceColor = some "1")
    (hx : parseOptions arguments = .ok x) (hcolored : x.noColor = false)
    (hx' : parseOptions arguments' = .ok { x with noColor := true })
    (harguments : ∀ a ∈ arguments, TextOver Inert a) (hhome : files.HomesOver Inert)
    (hstrings : ∀ entries,
      (fileEntries ((World.start e files).setUpLog (logSettings x)).1.files x.config).outcome =
        .ok entries → ∀ entry ∈ entries, entry.1.Over Inert ∧ entry.2.Over Inert)
    (hload : x.verbose = true → x.logFile.getD "" ≠ "" →
      LoadsAlike x ((World.start e files).setUpLog (logSettings x)).1
        ((World.start e files).setUpLog (logSettings { x with noColor := true })).1) :
    ∃ w₁ w₂ ending, run (World.start e files) arguments = (w₁, ending) ∧
      run (World.start e files) arguments' = (w₂, ending) ∧
      Terminal.deliver 1 w₁.stdout = ⟨w₂.stdout, none⟩ ∧
      (x.verbose = false → Terminal.deliver 1 w₁.stderr = ⟨w₂.stderr, none⟩) ∧
      esc ∉ w₂.stdout ∧ esc ∉ w₂.stderr := by
  obtain ⟨htwins, hending⟩ := alike_runOptions hunset hforce hhome hcolored
    (over_parseOptions hx harguments) hstrings hload
  have hplain : ∀ {cs : List Char}, (∀ c ∈ cs, Inert c) → esc ∉ cs :=
    fun hcs hesc => (hcs esc hesc).1 rfl
  have hrun : run (World.start e files) arguments = runOptions (World.start e files) x := by
    rw [run, hx]
  have hrun' : run (World.start e files) arguments' =
      runOptions (World.start e files) { x with noColor := true } := by
    rw [run, hx']
  rw [hrun, hrun']
  generalize runOptions (World.start e files) x = r₁ at htwins hending ⊢
  generalize runOptions (World.start e files) { x with noColor := true } = r₂
    at htwins hending ⊢
  obtain ⟨w₁, ending⟩ := r₁
  obtain ⟨w₂, _⟩ := r₂
  obtain rfl : ending = _ := hending
  exact ⟨w₁, w₂, ending, rfl, rfl, htwins.stdout.deliver_one,
    fun hverbose => (htwins.stderr hverbose).deliver_one, hplain htwins.stdout.inert,
    hplain htwins.inert⟩

/-- Colours are forced on, and nothing else is known of the terminal. -/
def forcedOn : Environment := { Environment.bare with forceColor := some "1" }

/-- The home directories where there is only that of the process. -/
theorem homesOver_work : (FileTree.empty "/work").HomesOver Inert := by
  intro user home hhome
  obtain ⟨h, hfound, rfl⟩ := Option.map_eq_some_iff.mp hhome
  obtain rfl := List.mem_singleton.mp (List.mem_of_find?_eq_some hfound)
  exact ⟨show TextOver Inert "/work" by decide, List.forall_mem_nil _⟩

/-- Details go to a log file, and an override lists the property that is asked about. -/
theorem run_colored_details :
    ∃ w₁ w₂ ending,
      run (World.start forcedOn (.empty "/work"))
          ["-v", "--log-file", "x", "--excludes", "id", "-p", "id"] = (w₁, ending) ∧
      run (World.start forcedOn (.empty "/work"))
          ["--no-color", "-v", "--log-file", "x", "--excludes", "id", "-p", "id"] = (w₂, ending) ∧
      Terminal.deliver 1 w₁.stdout = ⟨w₂.stdout, none⟩ ∧ esc ∉ w₂.stdout ∧ esc ∉ w₂.stderr := by
  have hx : parseOptions ["-v", "--log-file", "x", "--excludes", "id", "-p", "id"] =
      .ok { Options.none with excludes := some "id", properties := ["id"], verbose := true,
                              logFile := some "x" } := by
    cbv
  obtain ⟨w₁, w₂, ending, hrun₁, hrun₂, hstdout, -, hplain⟩ := run_colored forcedOn
    (.empty "/work") rfl rfl hx rfl (parseOptions_cons_noColor hx) (by decide)
    homesOver_work
    (fun entries hentries => by
      obtain rfl := Except.ok.inj hentries
      simp) (fun _ _ => rfl)
  exact ⟨w₁, w₂, ending, hrun₁, hrun₂, hstdout, hplain⟩

/-! ## A log file that is moved aside -/

/-- A log file, and a configuration below the place of its first backup. -/
def nearlyFull (bs : List UInt8) : FileTree :=
  ⟨"/work", (FileTree.empty "/work").homes,
    [(["x.1", "c.json"], .file 1), (["x.1"], .directory), (["x"], .file 0)], [bs, [0x7b, 0x7d]]⟩

/-- The same files after the log file has been moved aside and a new one has been begun. -/
def movedAside (bs written : List UInt8) : FileTree :=
  ⟨"/work", (FileTree.empty "/work").homes,
    [(["x"], .file 2), (["x.2", "c.json"], .file 1), (["x.2"], .directory), (["x.1"], .file 0)],
    [bs, [0x7b, 0x7d], written]⟩

/-- The log file, open. -/
def openLog : FileLog := ⟨⟨.named "/work" [], ["x"]⟩, 5 * 1024 * 1024, 3, some 0⟩

variable {bs : List UInt8} {w : World} {text : String}

theorem start_nearlyFull (bs : List UInt8) :
    FileLog.start (nearlyFull bs) "x" (5 * 1024 * 1024) 3 = (nearlyFull bs, .ok openLog) := by
  have hpath : Path.ofText "x" = ⟨.here, ["x"]⟩ := by decide
  have hmade : (nearlyFull bs).makeDirectories (Path.parent ⟨.here, ["x"]⟩) =
      (nearlyFull bs, .ok ()) := rfl
  have hopened : (nearlyFull bs).openAppend (Path.normalized "/work" ⟨.here, ["x"]⟩) =
      .ok (nearlyFull bs, 0) := rfl
  have hbase : (nearlyFull bs).base = "/work" := rfl
  rw [FileLog.start, hpath]
  dsimp only
  rw [hmade]
  dsimp only
  rw [hbase, hopened]
  rfl

/-- A detail that there is room for is added to the log file. -/
theorem logText_nearlyFull (hw : w.LogsTo [openLog]) (hfiles : w.files = nearlyFull bs)
    (hlevel : w.level = debugLevel)
    (hroom : openLog.isFull (nearlyFull bs)
      (standardLine "DEBUG" World.rootLogger text ++ "\n").length = false) :
    (w.logText debugLevel World.rootLogger text).files = nearlyFull
      (bs ++ Text.encodeUtf8 (standardLine "DEBUG" World.rootLogger text ++ "\n")) ∧
    (w.logText debugLevel World.rootLogger text).LogsTo [openLog] := by
  have hblocked : openLog.isBlocked w.files = false := by
    rw [hfiles]
    rfl
  have hadded := World.files_logText_of_room hw hlevel hblocked rfl text (hfiles ▸ hroom)
  rw [hfiles] at hadded
  exact hadded

/-- A detail that fills the log file begins a new one. -/
theorem logText_movedAside (hw : w.LogsTo [openLog]) (hfiles : w.files = nearlyFull bs)
    (hlevel : w.level = debugLevel)
    (hfull : openLog.isFull (nearlyFull bs)
      (standardLine "DEBUG" World.rootLogger text ++ "\n").length = true) :
    (w.logText debugLevel World.rootLogger text).files = movedAside bs
      (Text.encodeUtf8 (standardLine "DEBUG" World.rootLogger text ++ "\n")) := by
  have hrotate : openLog.rotate (nearlyFull bs) =
      (movedAside bs [], { openLog with stream := some 2 }, true) := rfl
  have hwrite := FileLog.write_of_full (t := nearlyFull bs) rfl rfl hfull hrotate rfl
  have hname : levelName debugLevel = "DEBUG" := rfl
  rw [World.logText_of_logsTo hw (by rw [hlevel]) (by decide), hfiles, hname]
  simp only [writeLogs, hwrite]
  rfl

theorem isFull_nearlyFull (bs : List UInt8) (length : Nat) :
    openLog.isFull (nearlyFull bs) length = decide (5242880 ≤ bs.length + length) := by
  have hcontent : (nearlyFull bs).content 0 = bs := rfl
  simp only [FileLog.isFull, openLog, hcontent]
  norm_num
  omega

/-- Details go to the log file, and the configuration lies below the place of its first backup. -/
def detailed : Options :=
  { Options.none with config := some "x.1/c.json", verbose := true, logFile := some "x" }

/-- Set-up with such settings, up to the report on colours. -/
theorem exists_setUpLog_nearlyFull {s : World.LogSettings} {color : Terminal.ColorState}
    (hcolor : (World.start forcedOn (nearlyFull bs)).color.force
      (World.start forcedOn (nearlyFull bs)).environment s.forceColor = .ok color)
    (hverbose : s.verbose = true) (hfile : s.logFile = some "x")
    (hmax : s.maxBytes = 5 * 1024 * 1024) (hbackups : s.backups = 3) (hstay : s.preserve = false)
    (hbs : bs.length = 5242760) :
    ∃ (w : World) (bs' : List UInt8), (World.start forcedOn (nearlyFull bs)).setUpLog s =
        (w.reportColor s.forceColor, none) ∧
      w.files = nearlyFull bs' ∧ bs'.length = 5242818 ∧ w.LogsTo [openLog] ∧
      w.level = debugLevel ∧ w.color = color := by
  let started : World := (World.start forcedOn (nearlyFull bs)).onConsole color true
  have hlogs : (started.addHandler (.logFile openLog)).LogsTo [openLog] := rfl
  have hline : (standardLine "DEBUG" World.rootLogger "Log file initialized: x" ++ "\n").length =
      58 := by decide
  have hoctets : (Text.encodeUtf8 (standardLine "DEBUG" World.rootLogger
      "Log file initialized: x" ++ "\n")).length = 58 := by
    rw [Text.length_encodeUtf8]
    decide
  have hroom : openLog.isFull (nearlyFull bs)
      (standardLine "DEBUG" World.rootLogger "Log file initialized: x" ++ "\n").length = false := by
    rw [isFull_nearlyFull, hline, hbs]
    decide
  obtain ⟨hfiles, hlogs'⟩ := logText_nearlyFull hlogs rfl rfl hroom
  have hlogged := World.logged_logText hlogs debugLevel World.rootLogger "Log file initialized: x"
  have hadded : started.addLogFile "x" s =
      ((started.addHandler (.logFile openLog)).logText debugLevel World.rootLogger
        "Log file initialized: x", none) := by
    have hfiles : started.files = nearlyFull bs := rfl
    unfold World.addLogFile
    rw [hfiles, hmax, hbackups, start_nearlyFull]
    rfl
  have hsetup := World.setUpLog_of_logFile hcolor hstay hfile (by decide)
  rw [hverbose, hadded] at hsetup
  refine ⟨_, _, hsetup, hfiles, ?_, hlogs', hlogged.level, hlogged.color⟩
  rw [List.length_append, hoctets, hbs]

/-- The report on colours that are on, as nothing was asked for. -/
theorem reportColor_auto (h : w.color.supported = .bool true) : w.reportColor .null =
    w.logText debugLevel World.rootLogger "Color support: True (auto)" := by
  have htext : "Color support: " ++ "True" ++ " (" ++ "auto" ++ ")" =
      "Color support: True (auto)" := by decide
  unfold World.reportColor
  rw [h, Value.plain_bool]
  simp only [if_true]
  rw [htext]

/-- The report on colours that are off, as it was asked for. -/
theorem reportColor_forced (h : w.color.supported = .bool false) : w.reportColor (.bool false) =
    w.logText debugLevel World.rootLogger "Color support: False (forced)" := by
  have htext : "Color support: " ++ "False" ++ " (" ++ "forced" ++ ")" =
      "Color support: False (forced)" := by decide
  unfold World.reportColor
  rw [h, Value.plain_bool]
  simp only [Bool.false_eq_true, if_false]
  rw [htext]

/-- With colours, there is room for the report on them. -/
theorem files_setUpLog_colored (hbs : bs.length = 5242760) :
    ∃ w bs', (World.start forcedOn (nearlyFull bs)).setUpLog (logSettings detailed) = (w, none) ∧
      w.files = nearlyFull bs' := by
  obtain ⟨w, bs', hsetup, hfiles, hlength, hlogs, hlevel, hcolor⟩ := exists_setUpLog_nearlyFull
    (s := logSettings detailed) (force_of_forced (e := forcedOn) rfl rfl).1 rfl rfl rfl rfl rfl hbs
  have hline : (standardLine "DEBUG" World.rootLogger "Color support: True (auto)" ++ "\n").length =
      61 := by decide
  have hroom : openLog.isFull (nearlyFull bs') (standardLine "DEBUG" World.rootLogger
      "Color support: True (auto)" ++ "\n").length = false := by
    rw [isFull_nearlyFull, hline, hlength]
    decide
  have hsetup : (World.start forcedOn (nearlyFull bs)).setUpLog (logSettings detailed) =
      (w.reportColor .null, none) := hsetup
  rw [reportColor_auto (by rw [hcolor])] at hsetup
  exact ⟨_, _, hsetup, (logText_nearlyFull hlogs hfiles hlevel hroom).1⟩

/-- Without colours, the report on them fills the log file. -/
theorem files_setUpLog_plain (hbs : bs.length = 5242760) :
    ∃ w bs' written, (World.start forcedOn (nearlyFull bs)).setUpLog
        (logSettings { detailed with noColor := true }) = (w, none) ∧
      w.files = movedAside bs' written := by
  obtain ⟨w, bs', hsetup, hfiles, hlength, hlogs, hlevel, hcolor⟩ := exists_setUpLog_nearlyFull
    (s := logSettings { detailed with noColor := true })
    (force_of_forced (e := forcedOn) rfl rfl).2 rfl rfl rfl rfl rfl hbs
  have hline : (standardLine "DEBUG" World.rootLogger "Color support: False (forced)"
      ++ "\n").length = 64 := by decide
  have hfull : openLog.isFull (nearlyFull bs') (standardLine "DEBUG" World.rootLogger
      "Color support: False (forced)" ++ "\n").length = true := by
    rw [isFull_nearlyFull, hline, hlength]
    decide
  have hsetup : (World.start forcedOn (nearlyFull bs)).setUpLog
      (logSettings { detailed with noColor := true }) =
        (w.reportColor (.bool false), none) := hsetup
  rw [reportColor_forced (by rw [hcolor])] at hsetup
  exact ⟨_, _, _, hsetup, logText_movedAside hlogs hfiles hlevel hfull⟩

theorem fileFound_nearlyFull {files : FileTree}
    (hhomes : files.homes = (FileTree.empty "/work").homes) :
    FileFound files "x.1/c.json" ⟨.here, ["x.1", "c.json"]⟩ .json := by
  refine ⟨?_, by decide⟩
  have hhome : files.home? = (FileTree.empty "/work").home? := by
    funext user
    rw [FileTree.home?, FileTree.home?, hhomes]
  rw [hhome]
  decide

theorem outcome_nearlyFull (bs : List UInt8) :
    (fileEntries (nearlyFull bs) (some "x.1/c.json")).outcome = .ok [] := by
  have hfound : FileFound (nearlyFull bs) "x.1/c.json" ⟨.here, ["x.1", "c.json"]⟩ .json :=
    fileFound_nearlyFull rfl
  have hread : FileFormat.json.read ['{', '}'] = .ok (.mapping none false []) := by cbv
  exact outcome_fileEntries_of_table (by decide) ⟨hfound, [0x7b, 0x7d], rfl, by decide⟩ hread

theorem loadReported_movedAside (bs written : List UInt8) :
    LoadReported (movedAside bs written) "x.1/c.json"
      (.unreadable "x.1/c.json" ⟨.notDirectory, "x.1/c.json"⟩) := by
  have hfound : FileFound (movedAside bs written) "x.1/c.json" ⟨.here, ["x.1", "c.json"]⟩ .json :=
    fileFound_nearlyFull rfl
  exact .unreadable hfound rfl

/-- A run that asks for nothing ends with status 0, if there is a configuration. -/
theorem run_of_nothing {arguments : List String} (hx : parseOptions arguments = .ok x)
    {w₁ : World} (hsetup : w.setUpLog (logSettings x) = (w₁, none))
    {entries : List (Value × Value)}
    (hload : (fileEntries w₁.files x.config).outcome = .ok entries) (hvalidate : x.validate = false)
    (hshow : x.showFilters = false) (hproperties : x.properties = []) :
    (run w arguments).2 = .status 0 := by
  have hrun : run w arguments = runOptions w x := by rw [run, hx]
  obtain ⟨c, hc, -⟩ := (mergeOverrides entries x.excludes x.includes).exists_filters
  rw [hrun, runOptions, hsetup]
  simp only [andThen, withNotices]
  rw [outcome_buildConfiguration, hload]
  simp only [Except.map, useConfiguration, hvalidate, withNotices, hc, Bool.false_eq_true, if_false]
  simp [answer, hshow, hproperties, showVerdicts, andThen]

theorem parseOptions_detailed :
    parseOptions ["-v", "--log-file", "x", "-c", "x.1/c.json"] = .ok detailed := by
  have hverbose : Word.ofArgument "-v" = .ok (.option .verbose true .none) := by cbv
  have hlogFile : Word.ofArgument "--log-file" = .ok (.option .logFile false .none) := by cbv
  have hconfig : Word.ofArgument "-c" = .ok (.option .config true .none) := by cbv
  have hlog : Word.ofArgument "x" = .ok (.argument "x") := ofArgument_of_head (by decide)
  have hpath : Word.ofArgument "x.1/c.json" = .ok (.argument "x.1/c.json") :=
    ofArgument_of_head (by decide)
  have hwords : wordsOf ["-v", "--log-file", "x", "-c", "x.1/c.json"] =
      .ok [.option .verbose true .none, .option .logFile false .none, .argument "x",
        .option .config true .none, .argument "x.1/c.json"] := by
    simp only [wordsOf, hverbose, hlogFile, hconfig, hlog, hpath]
    rfl
  rw [parseOptions, hwords]
  cbv

theorem inert_arguments_detailed :
    ∀ a ∈ ["-v", "--log-file", "x", "-c", "x.1/c.json"], TextOver Inert a := by
  have hverbose : TextOver Inert "-v" := by decide
  have hlogFile : TextOver Inert "--log-file" := by decide
  have hconfig : TextOver Inert "-c" := by decide
  have hlog : TextOver Inert "x" := by decide
  have hpath : TextOver Inert "x.1/c.json" := by decide
  simp [hverbose, hlogFile, hconfig, hlog, hpath]

/-- With such a log file, only the run with colours finds its configuration. -/
theorem ending_nearlyFull {arguments arguments' : List String}
    (hx : parseOptions arguments = .ok detailed)
    (hx' : parseOptions arguments' = .ok { detailed with noColor := true })
    (hbs : bs.length = 5242760) :
    (run (World.start forcedOn (nearlyFull bs)) arguments).2 = .status 0 ∧
      (run (World.start forcedOn (nearlyFull bs)) arguments').2 = .status 1 := by
  constructor
  · obtain ⟨w, bs', hsetup, hfiles⟩ := files_setUpLog_colored hbs
    have hload := outcome_nearlyFull bs'
    rw [← hfiles] at hload
    exact run_of_nothing hx hsetup hload rfl rfl rfl
  · obtain ⟨w, bs', written, hsetup, hfiles⟩ := files_setUpLog_plain hbs
    have hload := loadReported_movedAside bs' written
    rw [← hfiles] at hload
    rw [run_of_load_error hx' rfl (by decide) hsetup hload.outcome]
    rfl

theorem inert_nearlyFull (bs : List UInt8) :
    ∀ node ∈ (nearlyFull bs).nodes, ∀ n ∈ node.1, TextOver Inert n := by
  have hdirectory : TextOver Inert "x.1" := by decide
  have hfile : TextOver Inert "c.json" := by decide
  have hlog : TextOver Inert "x" := by decide
  simp [nearlyFull, hdirectory, hfile, hlog]

/-- **The log may keep both runs from loading alike.** Where the report on colours fills a log file
in one run only, what stands below the place of its first backup is found in one run only. -/
theorem run_colored_moved_aside :
    forcedOn.noColor = none ∧ forcedOn.forceColor = some "1" ∧
      parseOptions ["-v", "--log-file", "x", "-c", "x.1/c.json"] = .ok detailed ∧
      parseOptions ["--no-color", "-v", "--log-file", "x", "-c", "x.1/c.json"] =
        .ok { detailed with noColor := true } ∧
      (∀ a ∈ ["-v", "--log-file", "x", "-c", "x.1/c.json"], TextOver Inert a) ∧
      (∀ node ∈ (nearlyFull (.replicate 5242760 0x61)).nodes, ∀ n ∈ node.1, TextOver Inert n) ∧
      (∀ octets ∈ (nearlyFull (.replicate 5242760 0x61)).contents, ∀ b ∈ octets,
        b ≠ 0x1b ∧ b ≠ 0x01 ∧ b ≠ 0x02) ∧
      (run (World.start forcedOn (nearlyFull (.replicate 5242760 0x61)))
        ["-v", "--log-file", "x", "-c", "x.1/c.json"]).2 = .status 0 ∧
      (run (World.start forcedOn (nearlyFull (.replicate 5242760 0x61)))
        ["--no-color", "-v", "--log-file", "x", "-c", "x.1/c.json"]).2 = .status 1 := by
  have hx' := parseOptions_cons_noColor parseOptions_detailed
  have hletter : ∀ b ∈ List.replicate 5242760 (0x61 : UInt8), b ≠ 0x1b ∧ b ≠ 0x01 ∧ b ≠ 0x02 := by
    intro b hb
    obtain rfl := List.eq_of_mem_replicate hb
    decide
  have hlength : (List.replicate 5242760 (0x61 : UInt8)).length = 5242760 := List.length_replicate
  generalize List.replicate 5242760 (0x61 : UInt8) = bs at hletter hlength ⊢
  refine ⟨rfl, rfl, parseOptions_detailed, hx', inert_arguments_detailed, inert_nearlyFull bs, ?_,
    ending_nearlyFull parseOptions_detailed hx' hlength⟩
  have hbraces : ∀ b ∈ [(0x7b : UInt8), 0x7d], b ≠ 0x1b ∧ b ≠ 0x01 ∧ b ≠ 0x02 := by simp
  rw [nearlyFull, List.forall_mem_cons, List.forall_mem_singleton]
  exact ⟨hletter, hbraces⟩

end PropertyFilter.Command
