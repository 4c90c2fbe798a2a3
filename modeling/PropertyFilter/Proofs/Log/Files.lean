import PropertyFilter.Log.History
import PropertyFilter.Proofs.Log.Console
import PropertyFilter.Proofs.Terminal.Decisions

/-!
# What log files hold

Log files in layouts without colours have none. What they hold can be told from the steps that the
log takes without knowing anything about colours, the console or other handlers: there is a smaller
machine, made of the files, the level and the open log files only, and the world goes along with it.
As that machine does not look at the wish for colours, log files do not depend on it.

A caller may give a log file a layout with colours, and then the file depends on them. It may also
give it one that shows whether the text of an exception has been made before, which other handlers
decide.

## Main definitions

* `Layout.plainText`: the text of a record without colours
* `Layout.IsSteady raising l`: what `l` makes of records depends on nothing but them
* `LogStep.IsNeutral raising step`: a step that leaves log files without colours
* `FileView`: what matters to log files
* `FileView.take`, `FileView.run`: what the steps do to it
* `LogStep.forcing b`: a step, with colours forced on or off by it

## Main results

* `World.fileView_log`: logging a record
* `World.fileView_setUpLog`: setting up the log
* `World.fileView_run`: the world goes along with the view, whatever colours are forced
* `World.files_run_forcing`: log files do not depend on colours
-/

namespace PropertyFilter

open Terminal (Environment ColorState)

namespace Layout

/-- The text of a record without colours. -/
def plainText (l : Layout) (r : Record) : Except Fault String := (l.formatPlain (.ofRecord r)).2

/-- What a layout makes of records depends neither on colours nor, if there are exceptions with
them, on what has been made of them before. -/
structure IsSteady (raising : Prop) (l : Layout) : Prop where
  uncolored : l.colored = false
  hidesTrace : raising → l.HidesTrace

variable {l : Layout} {raising : Prop}

theorem isSteady_plain (raising : Prop) : plain.IsSteady raising :=
  ⟨rfl, fun _ => hidesTrace_of_standardTemplate rfl⟩

/-- The text of a record in a steady layout. -/
theorem IsSteady.format_eq (h : l.IsSteady raising) {s : SharedRecord} {r : Record}
    (hs : s.IsFor r) (hr : r.exception ≠ none → raising) (color : ColorState) :
    (l.format color s).2 = l.plainText r := by
  have hhides : l.HidesTrace ∨ r.exception = none := by
    by_cases hexception : r.exception = none
    · exact .inr hexception
    · exact .inl (h.hidesTrace (hr hexception))
  rw [format_of_isFor hs hhides, render, format, h.uncolored]
  rfl

end Layout

/-- A step that leaves log files without colours: details are not logged, callers give log files
steady layouts, and an exception counts as one. -/
def LogStep.IsNeutral (raising : Prop) : LogStep → Prop
  | .setUp s => s.verbose = false
  | .addNowhere _ | .addStream _ _ => True
  | .addFile _ _ _ layout => (layout.getD .bare).IsSteady raising
  | .log r => r.exception ≠ none → raising

/-- The log file behind a handler, and its layout. -/
def Handler.file? (h : Handler) : Option (FileLog × Layout) :=
  match h.sink with
  | .file l => some (l, h.layout.getD .bare)
  | _ => none

/-! ## The view of log files -/

/-- What matters to log files. -/
@[ext]
structure FileView where
  files : FileTree
  level : Int
  /-- The open log files and their layouts. -/
  logs : List (FileLog × Layout)

namespace FileView

/-- All log files have steady layouts. -/
def IsSteady (raising : Prop) (v : FileView) : Prop := ∀ log ∈ v.logs, log.2.IsSteady raising

/-- A log file takes a record. -/
def writeOne (t : FileTree) (r : Record) (log : FileLog × Layout) :
    FileTree × (FileLog × Layout) :=
  let (t, l) := log.1.take t (log.2.plainText r)
  (t, l, log.2)

/-- Log files take a record in turn. -/
def writeEach (t : FileTree) (r : Record) :
    List (FileLog × Layout) → FileTree × List (FileLog × Layout)
  | [] => (t, [])
  | log :: logs =>
    let (t, log) := writeOne t r log
    let (t, logs) := writeEach t r logs
    (t, log :: logs)

/-- Logs a record. -/
def log (v : FileView) (r : Record) : FileView :=
  if r.level < v.level ∨ r.level ≤ 0 then v
  else { v with files := (writeEach v.files r v.logs).1, logs := (writeEach v.files r v.logs).2 }

/-- The view once set-up has begun: details are passed over, and log files stay or are given up. -/
def reset (v : FileView) (preserve : Bool) : FileView :=
  { v with level := infoLevel, logs := if preserve then v.logs else [] }

/-- Adds a log file; a file that cannot be opened is reported in the log. -/
def addLogFile (v : FileView) (path : String) (s : World.LogSettings) : FileView × Option Fault :=
  let (files, made) := FileLog.start v.files path s.maxBytes s.backups
  let v := { v with files := files }
  match made with
  | .ok l => ({ v with logs := v.logs ++ [(l, .plain)] }, none)
  | .error (.refused f) =>
    (v.log (.ofText errorLevel World.rootLogger
      ("Failed to initialize log file " ++ path ++ ": " ++ f.message)), none)
  | .error .badPath => (v, some .malformed)

/-- Sets up the log, without details; the wish for colours does not matter. -/
def setUp (v : FileView) (s : World.LogSettings) : FileView × Option Fault :=
  if s.logFile.getD "" = "" then (v.reset s.preserve, none)
  else (v.reset s.preserve).addLogFile (s.logFile.getD "") s

/-- Takes a step; other handlers do not matter. -/
def take (v : FileView) : LogStep → FileView × Option Fault
  | .setUp settings => v.setUp settings
  | .addNowhere _ | .addStream _ _ => (v, none)
  | .addFile path maxBytes backups layout =>
    let (files, made) := FileLog.start v.files path maxBytes backups
    let v := { v with files := files }
    match made with
    | .ok l => ({ v with logs := v.logs ++ [(l, layout.getD .bare)] }, none)
    | .error _ => (v, none)
  | .log r => (v.log r, none)

/-- Takes steps one after the other; also says which of them fail. -/
def run (v : FileView) : List LogStep → FileView × List (Option Fault)
  | [] => (v, [])
  | step :: steps =>
    let (v, fault) := v.take step
    let (v, faults) := v.run steps
    (v, fault :: faults)

variable {v : FileView} {raising : Prop}

theorem layouts_writeEach (t : FileTree) (r : Record) (logs : List (FileLog × Layout)) :
    (writeEach t r logs).2.map Prod.snd = logs.map Prod.snd := by
  induction logs generalizing t with
  | nil => rfl
  | cons log logs ih =>
    rw [writeEach, List.map_cons, List.map_cons, ih]
    rfl

theorem isSteady_iff :
    v.IsSteady raising ↔ ∀ layout ∈ v.logs.map Prod.snd, layout.IsSteady raising := by
  rw [List.forall_mem_map]
  rfl

theorem level_log (v : FileView) (r : Record) : (v.log r).level = v.level := by
  unfold FileView.log
  split <;> rfl

theorem level_addLogFile (v : FileView) (path : String) (s : World.LogSettings) :
    (v.addLogFile path s).1.level = v.level := by
  unfold FileView.addLogFile
  dsimp only
  split
  · rfl
  · exact level_log _ _
  · rfl

namespace IsSteady

theorem log (h : v.IsSteady raising) (r : Record) : (v.log r).IsSteady raising := by
  unfold FileView.log
  split
  · exact h
  · rw [isSteady_iff] at h ⊢
    rwa [layouts_writeEach]

/-- One more log file in a steady layout. -/
theorem add (h : v.IsSteady raising) (l : FileLog) {layout : Layout}
    (hlayout : layout.IsSteady raising) (files : FileTree) :
    IsSteady raising { v with files := files, logs := v.logs ++ [(l, layout)] } := by
  intro log hlog
  rcases List.mem_append.mp hlog with hlog | hlog
  · exact h log hlog
  · rw [List.mem_singleton.mp hlog]
    exact hlayout

theorem reset (h : v.IsSteady raising) (preserve : Bool) :
    (v.reset preserve).IsSteady raising := by
  intro log hlog
  cases preserve with
  | true => exact h log hlog
  | false => contradiction

theorem addLogFile (h : v.IsSteady raising) (path : String) (s : World.LogSettings) :
    (v.addLogFile path s).1.IsSteady raising := by
  unfold FileView.addLogFile
  generalize FileLog.start v.files path s.maxBytes s.backups = started
  obtain ⟨files, made⟩ := started
  have hfiles : IsSteady raising { v with files := files } := h
  cases made with
  | ok l => exact h.add l (Layout.isSteady_plain raising) files
  | error e =>
    cases e with
    | badPath => exact hfiles
    | refused f => exact hfiles.log _

theorem setUp (h : v.IsSteady raising) (s : World.LogSettings) :
    (v.setUp s).1.IsSteady raising := by
  unfold FileView.setUp
  split
  · exact h.reset s.preserve
  · exact (h.reset s.preserve).addLogFile _ s

/-- **Log files keep steady layouts.** -/
theorem take (h : v.IsSteady raising) {step : LogStep} (hstep : step.IsNeutral raising) :
    (v.take step).1.IsSteady raising := by
  cases step with
  | setUp settings => exact h.setUp settings
  | addNowhere layout => exact h
  | addStream channel layout => exact h
  | addFile path maxBytes backups layout =>
    unfold FileView.take
    dsimp only
    generalize FileLog.start v.files path maxBytes backups = started
    obtain ⟨files, made⟩ := started
    cases made with
    | ok l => exact h.add l hstep files
    | error e => exact h
  | log r => exact h.log r

end IsSteady

end FileView

/-! ## The world goes along -/

namespace World

open FileView (writeOne writeEach)

variable {w : World} {h : Handler} {s : SharedRecord} {r : Record} {raising : Prop}

/-- What matters to log files in a world. -/
def fileView (w : World) : FileView := ⟨w.files, w.level, w.handlers.filterMap Handler.file?⟩

/-- A handler that has no log file leaves files as they are. -/
theorem accept_of_no_file (hfile : h.file? = none) (text : Except Fault String) :
    (w.accept h text).1.files = w.files ∧ (w.accept h text).2 = h := by
  unfold accept
  split
  · exact ⟨files_send _ _ _ _, rfl⟩
  · next hsink => simp [Handler.file?, hsink] at hfile
  · exact ⟨rfl, rfl⟩

/-- The log file behind a handler takes what the handler does. -/
theorem accept_of_file {log : FileLog × Layout} (hfile : h.file? = some log)
    (text : Except Fault String) :
    (w.accept h text).1.files = (log.1.take w.files text).1 ∧
      (w.accept h text).2.file? = some ((log.1.take w.files text).2, log.2) := by
  obtain ⟨sink, layout⟩ := h
  cases sink with
  | nowhere => contradiction
  | stream c layers => contradiction
  | file l =>
    obtain rfl := Option.some.inj hfile
    exact ⟨rfl, rfl⟩

/-- **Handlers in turn** do to log files what these do for themselves. -/
theorem handleAll_files (hs : s.IsFor r) (hr : r.exception ≠ none → raising)
    {handlers : List Handler}
    (hsteady : ∀ log ∈ handlers.filterMap Handler.file?, log.2.IsSteady raising) :
    (w.handleAll s handlers).1.files =
        (writeEach w.files r (handlers.filterMap Handler.file?)).1 ∧
      (w.handleAll s handlers).2.filterMap Handler.file? =
        (writeEach w.files r (handlers.filterMap Handler.file?)).2 := by
  -- by induction on the handlers: each starts from the files that the one before it has left
  induction handlers generalizing w s with
  | nil => exact ⟨rfl, rfl⟩
  | cons h handlers ih =>
    obtain ⟨s', hs', hhandle⟩ := exists_handle_eq hs w h
    rw [handleAll, hhandle]
    generalize htext : ((h.layout.getD .bare).format w.color s).2 = text
    cases hfile : h.file? with
    | none =>
      obtain ⟨hfiles, hhandler⟩ := accept_of_no_file (w := w) hfile text
      rw [List.filterMap_cons_none hfile] at hsteady ⊢
      obtain ⟨hrest, hrestLogs⟩ := ih (w := (w.accept h text).1) hs' hsteady
      rw [hfiles] at hrest hrestLogs
      refine ⟨hrest, ?_⟩
      rw [List.filterMap_cons_none (by rw [hhandler, hfile])]
      exact hrestLogs
    | some log =>
      rw [List.filterMap_cons_some hfile, List.forall_mem_cons] at hsteady
      have hlayout : log.2 = h.layout.getD .bare := by
        unfold Handler.file? at hfile
        split at hfile
        · exact (Option.some.inj hfile) ▸ rfl
        · contradiction
      rw [← hlayout, hsteady.1.format_eq hs hr] at htext
      obtain ⟨hfiles, hlog⟩ := accept_of_file (w := w) hfile text
      obtain ⟨hrest, hrestLogs⟩ := ih (w := (w.accept h text).1) hs' hsteady.2
      rw [hfiles] at hrest hrestLogs
      rw [List.filterMap_cons_some hfile, writeEach, writeOne, htext]
      refine ⟨hrest, ?_⟩
      rw [List.filterMap_cons_some hlog, hrestLogs]

/-- The last resort leaves log files alone. -/
theorem fileView_lastResort (w : World) (r : Record) : (w.lastResort r).fileView = w.fileView := by
  rw [lastResort_eq]
  split
  · have hsettings := sameSettings_accept w ⟨.stream .stderr w.color.layers, none⟩
      (Layout.bare.render w.color r)
    have hhandlers := handlers_accept w ⟨.stream .stderr w.color.layers, none⟩
      (Layout.bare.render w.color r)
    obtain ⟨hfiles, -⟩ := accept_of_no_file (w := w)
      (h := ⟨.stream .stderr w.color.layers, none⟩) rfl (Layout.bare.render w.color r)
    exact FileView.ext hfiles hsettings.level (congrArg (List.filterMap Handler.file?) hhandlers)
  · rfl

/-- **Logging a record**, as far as log files go. -/
theorem fileView_log (hsteady : w.fileView.IsSteady raising) (hr : r.exception ≠ none → raising) :
    (w.log r).fileView = w.fileView.log r := by
  rw [log_eq]
  by_cases hpassed : r.level < w.level ∨ r.level ≤ 0
  · rw [if_pos hpassed]
    exact (if_pos hpassed).symm
  · rw [if_neg hpassed]
    have hlog : w.fileView.log r =
        { w.fileView with files := (writeEach w.files r w.fileView.logs).1
                          logs := (writeEach w.files r w.fileView.logs).2 } := if_neg hpassed
    rw [hlog]
    split
    · next hnone =>
      have hlogs : w.fileView.logs = [] := by
        rw [fileView, hnone]
        rfl
      rw [fileView_lastResort, hlogs]
      exact FileView.ext rfl rfl hlogs
    · obtain ⟨hfiles, hlogs⟩ := handleAll_files (SharedRecord.isFor_ofRecord r) hr hsteady
      have hsettings := sameSettings_handleAll w (.ofRecord r) w.handlers
      exact FileView.ext hfiles hsettings.level hlogs

/-- A handler that has no log file may be added. -/
theorem fileView_addHandler (hfile : h.file? = none) : (w.addHandler h).fileView = w.fileView := by
  refine FileView.ext rfl rfl ?_
  simp only [fileView, addHandler, List.filterMap_append]
  rw [List.filterMap_cons_none hfile, List.filterMap_nil, List.append_nil]

/-- The handler of a log file is added. -/
theorem fileView_addHandler_file (w : World) (files : FileTree) (l : FileLog)
    (layout : Option Layout) :
    (({ w with files := files } : World).addHandler ⟨.file l, layout⟩).fileView =
      { w.fileView with files := files, logs := w.fileView.logs ++ [(l, layout.getD .bare)] } := by
  refine FileView.ext rfl rfl ?_
  simp only [fileView, addHandler, List.filterMap_append]
  rfl

/-- Handlers that do not stay take their log files with them; the console has none. -/
theorem fileView_readied (color : ColorState) {s : LogSettings} (hquiet : s.verbose = false) :
    (w.readied color s).fileView = w.fileView.reset s.preserve := by
  rw [readied, hquiet, withConsole]
  dsimp only
  generalize hkept : (if s.preserve then _ else _ : World) = kept
  have hview : kept.fileView = w.fileView.reset s.preserve := by
    rw [← hkept]
    cases s.preserve <;> rfl
  split
  · exact hview
  · rw [fileView_addHandler rfl]
    exact hview

/-- **Adding a log file**, as far as log files go. -/
theorem fileView_addLogFile (hsteady : w.fileView.IsSteady raising) (hlevel : w.level = infoLevel)
    (path : String) (s : LogSettings) :
    (w.addLogFile path s).1.fileView = (w.fileView.addLogFile path s).1 ∧
      (w.addLogFile path s).2 = (w.fileView.addLogFile path s).2 := by
  unfold addLogFile FileView.addLogFile
  rw [show w.fileView.files = w.files from rfl]
  generalize FileLog.start w.files path s.maxBytes s.backups = started
  obtain ⟨files, made⟩ := started
  cases made with
  | ok l =>
    refine ⟨?_, rfl⟩
    dsimp only
    rw [logText_of_lt (by rw [addHandler, hlevel]; decide)]
    exact fileView_addHandler_file w files l (some .plain)
  | error e =>
    cases e with
    | badPath => exact ⟨rfl, rfl⟩
    | refused f =>
      have hfiles : ({ w with files := files } : World).fileView.IsSteady raising := hsteady
      exact ⟨fileView_log hfiles fun h => absurd rfl h, rfl⟩

/-- **Setting up the log** without details, as far as log files go, with any colours. -/
theorem fileView_setUpLog (hsteady : w.fileView.IsSteady raising) {s : LogSettings}
    (hquiet : s.verbose = false) {color : ColorState}
    (hcolor : w.color.force w.environment s.forceColor = .ok color) :
    (w.setUpLog s).1.fileView = (w.fileView.setUp s).1 ∧
      (w.setUpLog s).2 = (w.fileView.setUp s).2 := by
  -- the report on colours is all that has the wish in its text, and it is passed over
  have hready := fileView_readied (w := w) color hquiet
  have hlevel : (w.readied color s).level = infoLevel := congrArg FileView.level hready
  unfold FileView.setUp
  by_cases hfile : s.logFile.getD "" = ""
  · rw [setUpLog_of_no_logFile hcolor hfile, if_pos hfile, reportColor_of_info hlevel]
    exact ⟨hready, rfl⟩
  · obtain ⟨path, hlogFile, hpath⟩ := exists_logFile_of_ne hfile
    obtain ⟨hadded, hfault⟩ := fileView_addLogFile (w := w.readied color s)
      (hready ▸ hsteady.reset s.preserve) hlevel path s
    rw [setUpLog_of_some_logFile hcolor hlogFile hpath, if_neg hfile, hlogFile, Option.getD_some,
      ← hready]
    have hlevel' : ((w.readied color s).addLogFile path s).1.level = infoLevel :=
      (congrArg FileView.level hadded).trans ((FileView.level_addLogFile _ path s).trans hlevel)
    rw [reportColor_of_info hlevel', ite_self]
    exact ⟨hadded, hfault⟩

end World

/-! ## Two runs -/

/-- A step, with colours forced on or off if it sets up the log. -/
def LogStep.forcing (b : Bool) : LogStep → LogStep
  | .setUp s => .setUp { s with forceColor := .bool b }
  | step => step

namespace World

variable {w : World} {raising : Prop}

/-- **One step**: the world goes along with the view, whatever colours are forced. -/
theorem fileView_take (hsteady : w.fileView.IsSteady raising) {step : LogStep}
    (hstep : step.IsNeutral raising) (b : Bool) :
    (w.take (step.forcing b)).1.fileView = (w.fileView.take step).1 ∧
      (w.take (step.forcing b)).2 = (w.fileView.take step).2 := by
  cases step with
  | setUp s =>
    obtain ⟨color, hcolor⟩ := w.color.exists_force_bool w.environment b
    exact fileView_setUpLog (s := { s with forceColor := .bool b }) hsteady hstep hcolor
  | addNowhere layout => exact ⟨fileView_addHandler rfl, rfl⟩
  | addStream channel layout => exact ⟨fileView_addHandler rfl, rfl⟩
  | addFile path maxBytes backups layout =>
    have hsame : LogStep.forcing b (.addFile path maxBytes backups layout) =
        .addFile path maxBytes backups layout := rfl
    rw [hsame, World.take, FileView.take, show w.fileView.files = w.files from rfl]
    generalize FileLog.start w.files path maxBytes backups = started
    obtain ⟨files, made⟩ := started
    cases made with
    | ok l => exact ⟨fileView_addHandler_file w files l layout, rfl⟩
    | error e => exact ⟨rfl, rfl⟩
  | log r => exact ⟨fileView_log hsteady hstep, rfl⟩

/-- **Any steps**: the world goes along with the view, whatever colours are forced. -/
theorem fileView_run (hsteady : w.fileView.IsSteady raising) {steps : List LogStep}
    (hsteps : ∀ step ∈ steps, step.IsNeutral raising) (b : Bool) :
    (w.run (steps.map (.forcing b))).1.fileView = (w.fileView.run steps).1 ∧
      (w.run (steps.map (.forcing b))).2 = (w.fileView.run steps).2 := by
  induction steps generalizing w with
  | nil => exact ⟨rfl, rfl⟩
  | cons step steps ih =>
    rw [List.forall_mem_cons] at hsteps
    obtain ⟨hview, hfault⟩ := fileView_take hsteady hsteps.1 b
    obtain ⟨hrest, hfaults⟩ := ih (w := (w.take (step.forcing b)).1)
      (hview ▸ hsteady.take hsteps.1) hsteps.2
    rw [hview] at hrest hfaults
    rw [List.map_cons, run_cons, FileView.run]
    exact ⟨hrest, congrArg₂ List.cons hfault hfaults⟩

theorem isSteady_start (e : Environment) (t : FileTree) (raising : Prop) :
    (start e t).fileView.IsSteady raising := by
  intro log hlog
  contradiction

/-- **Log files do not depend on colours.** Whatever happens to the log, as long as details are not
logged and callers give their log files layouts without colours, all files are the same in the end
whether colours are forced on or off each time that the log is set up; and the same steps fail. If
exceptions are logged, these layouts must not show whether their texts have been made before. -/
theorem files_run_forcing (e : Environment) (t : FileTree) {steps : List LogStep}
    (hquiet : ∀ s, .setUp s ∈ steps → s.verbose = false)
    (hadded : ∀ path maxBytes backups layout, .addFile path maxBytes backups layout ∈ steps →
      (layout.getD .bare).IsSteady (∃ r, .log r ∈ steps ∧ r.exception ≠ none)) :
    ((start e t).run (steps.map (.forcing true))).1.files =
        ((start e t).run (steps.map (.forcing false))).1.files ∧
      ((start e t).run (steps.map (.forcing true))).2 =
        ((start e t).run (steps.map (.forcing false))).2 := by
  have hsteps : ∀ step ∈ steps, step.IsNeutral (∃ r, .log r ∈ steps ∧ r.exception ≠ none) := by
    intro step hstep
    cases step with
    | setUp s => exact hquiet s hstep
    | addNowhere layout => trivial
    | addStream channel layout => trivial
    | addFile path maxBytes backups layout => exact hadded path maxBytes backups layout hstep
    | log r => exact fun hr => ⟨r, hstep, hr⟩
  obtain ⟨hcolored, hcoloredFaults⟩ := fileView_run (isSteady_start e t _) hsteps true
  obtain ⟨hplain, hplainFaults⟩ := fileView_run (isSteady_start e t _) hsteps false
  exact ⟨congrArg FileView.files (hcolored.trans hplain.symm),
    hcoloredFaults.trans hplainFaults.symm⟩

/-- A warning that has nothing for its placeholder. -/
def unfilled : Record :=
  { level := warningLevel, logger := "app", message := .text "%d", arguments := [.text "x"] }

/-- A handler of a caller comes first, then the log is set up with a file, and there is a log file
of the caller; of two records the first has nothing for its placeholder. -/
def mixedSteps : List LogStep :=
  [.addStream .stdout (some .console),
    .setUp { LogSettings.standard with logFile := some "app.log", maxBytes := 60, backups := 1,
                                       preserve := true },
    .addFile "own.log" 0 0 none,
    .log unfilled, .log (.ofText errorLevel "app" "boom")]

/-- Without colours the first handler does not count as one of the console any more, and there is
one handler more; the log files are the same. -/
theorem files_run_forcing_mixed :
    let run := fun b => (start .bare (.empty "/home")).run (mixedSteps.map (.forcing b))
    (run true).1.handlers.length = 3 ∧ (run false).1.handlers.length = 4 ∧
      (run true).1.files = (run false).1.files ∧ (run true).2 = (run false).2 ∧
      (run false).1.files.content 0 =
        Text.encodeUtf8 "1970-01-01 00:00:00 [ERROR] app: boom
" ∧
      (run false).1.files.content 1 = Text.encodeUtf8 "boom
" := by
  have hquiet : ∀ s, .setUp s ∈ mixedSteps → s.verbose = false := by
    simp [mixedSteps, LogSettings.standard]
  have hadded : ∀ path maxBytes backups layout,
      .addFile path maxBytes backups layout ∈ mixedSteps → (layout.getD .bare).IsSteady
        (∃ r, .log r ∈ mixedSteps ∧ r.exception ≠ none) := by
    intro path maxBytes backups layout hlayout
    obtain ⟨-, -, -, rfl⟩ : path = "own.log" ∧ maxBytes = 0 ∧ backups = 0 ∧ layout = none := by
      simpa [mixedSteps] using hlayout
    refine ⟨rfl, fun ⟨r, hr, hexception⟩ => absurd ?_ hexception⟩
    have hr' : r = unfilled ∨ r = .ofText errorLevel "app" "boom" := by
      simpa [mixedSteps] using hr
    rcases hr' with rfl | rfl <;> rfl
  obtain ⟨hfiles, hfaults⟩ := files_run_forcing .bare (.empty "/home") hquiet hadded
  exact ⟨by decide +kernel, by decide +kernel, hfiles, hfaults, by decide +kernel,
    by decide +kernel⟩

/-- A caller gives its own log file the layout of the console. -/
def paintedSteps : List LogStep :=
  [.setUp LogSettings.standard, .addFile "own.log" 0 0 (some .console),
    .log (.ofText warningLevel "app" "x")]

/-- A log file with the layout of the console depends on colours. -/
theorem files_run_forcing_painted :
    let run := fun b => (start .bare (.empty "/home")).run (paintedSteps.map (.forcing b))
    (run true).1.files.content 0 ≠ (run false).1.files.content 0 ∧
      (run true).1.files.content 0 = Text.encodeUtf8
        "1970-01-01 00:00:00 [[1m[33mWARNING[0m] app: [33mx[0m
" ∧
      (run false).1.files.content 0 =
        Text.encodeUtf8 "1970-01-01 00:00:00 [WARNING] app: x
" := by
  decide +kernel

end World

end PropertyFilter
