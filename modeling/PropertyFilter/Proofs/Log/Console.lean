import PropertyFilter.Proofs.File.Roots
import PropertyFilter.Proofs.Log.Installed
import PropertyFilter.Proofs.Log.Lines
import PropertyFilter.Proofs.Log.Stages

/-!
# The console and log files

Set-up installs one handler for the console, on standard error, and one for a log file that can be
opened. From then on every text at a level that is not passed over is written once to standard
error, through the deleting layers, and once to each log file.

## Main definitions

* `World.LogsTo w logs`: the handlers are those of the console and of the log files `logs`
* `writeLogs`: writes a line to log files
* `World.Logged w w'`: from `w` to `w'` nothing but the log has changed

## Main results

* `World.logText_of_logsTo`: what logging a text does
* `World.exists_logsTo_setUpLog`: the handlers after set-up
* `World.sameRoots_setUpLog`: set-up leaves the working directory and the home directory
-/

namespace PropertyFilter

open FileTree (SameRoots)
open Terminal (ColorState)

/-- The handler of the console. -/
def Handler.console (layers : Nat) : Handler := ⟨.stream .stderr layers, some .console⟩

/-- The handler of a log file. -/
def Handler.logFile (l : FileLog) : Handler := ⟨.file l, some .plain⟩

/-- Writes a line to log files, one after the other. -/
def writeLogs (t : FileTree) (line : String) : List FileLog → FileTree × List FileLog
  | [] => (t, [])
  | l :: ls =>
    let (t, l) := l.write t line
    let (t, ls) := writeLogs t line ls
    (t, l :: ls)

/-! ## Log files -/

theorem length_loop (bs : ByteArray) (i : Nat) (r : List UInt8) :
    (ByteArray.toList.loop bs i r).length = r.length + (bs.size - i) := by
  fun_induction ByteArray.toList.loop bs i r with
  | case1 i r h ih =>
    rw [ih, List.length_cons]
    omega
  | case2 i r h =>
    rw [List.length_reverse]
    omega

/-- How many octets a text takes in a file. -/
theorem Text.length_encodeUtf8 (s : String) : (encodeUtf8 s).length = s.utf8ByteSize := by
  rw [encodeUtf8, ByteArray.toList, length_loop, String.toUTF8_eq_toByteArray,
    String.size_toByteArray]
  simp

namespace FileLog

variable {l l' : FileLog} {t t' : FileTree} {line : String} {i : Nat}

/-- A line for which there is room goes to the end of the file. -/
theorem write_of_room (hblocked : l.isBlocked t = false) (hstream : l.stream = some i)
    (hroom : l.isFull t (line ++ "\n").length = false) :
    l.write t line = (t.appendTo i (Text.encodeUtf8 (line ++ "\n")), l) := by
  have hready : l.ready t = (t, l) := by rw [ready, hstream]
  have hmade : l.makeRoom t (line ++ "\n").length = (t, l, true) := by
    rw [makeRoom, hblocked, hready]
    simp only [Bool.false_eq_true, if_false, hroom]
  rw [write]
  simp only [hmade]
  rw [append]
  simp only [hready, hstream]

/-- A line that would fill the file goes to a new one. -/
theorem write_of_full (hblocked : l.isBlocked t = false) (hstream : l.stream = some i)
    (hfull : l.isFull t (line ++ "\n").length = true) (hrotate : l.rotate t = (t', l', true))
    {j : Nat} (hstream' : l'.stream = some j) :
    l.write t line = (t'.appendTo j (Text.encodeUtf8 (line ++ "\n")), l') := by
  have hready : l.ready t = (t, l) := by rw [ready, hstream]
  have hready' : l'.ready t' = (t', l') := by rw [ready, hstream']
  have hmade : l.makeRoom t (line ++ "\n").length = (t', l', true) := by
    rw [makeRoom, hblocked, hready]
    simp only [Bool.false_eq_true, if_false, hfull, if_true, hrotate]
  rw [write]
  simp only [hmade]
  rw [append]
  simp only [hready', hstream']

end FileLog

namespace World

variable {w w' w'' : World} {logs : List FileLog}

/-- The handlers are those of the console and of some log files. -/
def LogsTo (w : World) (logs : List FileLog) : Prop :=
  w.handlers = .console w.color.layers :: logs.map .logFile

/-- The log files take a text in turn. -/
theorem receiveAll_logFiles (w : World) (level : Int) (logger text : String)
    (logs : List FileLog) :
    w.receiveAll (.ofText level logger text) (logs.map .logFile) =
      ({ w with files := (writeLogs w.files (standardLine (levelName level) logger text) logs).1 },
        (writeLogs w.files (standardLine (levelName level) logger text) logs).2.map .logFile) := by
  induction logs generalizing w with
  | nil => rfl
  | cons l logs ih =>
    have hline : w.receive (.logFile l) (.ofText level logger text) =
        ({ w with files := (l.write w.files (standardLine (levelName level) logger text)).1 },
          .logFile (l.write w.files (standardLine (levelName level) logger text)).2) := by
      simp only [receive, Handler.logFile, Option.getD_some, Layout.render_plain]
      rfl
    rw [List.map_cons, receiveAll, hline]
    simp only [ih, writeLogs, List.map_cons]

/-- **Logging a text** at a level that is not passed over. -/
theorem logText_of_logsTo (hw : w.LogsTo logs) {level : Int} (hlevel : w.level ≤ level)
    (hpos : 0 < level) (logger text : String) :
    w.logText level logger text =
      { w with
        stderr := w.stderr ++ (Terminal.deliver w.color.layers
          (consoleLine w.color level logger text ++ "\n").toList).arrived
        files := (writeLogs w.files (standardLine (levelName level) logger text) logs).1
        handlers := .console w.color.layers ::
          (writeLogs w.files (standardLine (levelName level) logger text) logs).2.map
            .logFile } := by
  have hconsole : w.receive (.console w.color.layers) (.ofText level logger text) =
      (w.send .stderr w.color.layers (consoleLine w.color level logger text ++ "\n").toList,
        .console w.color.layers) := by
    simp only [receive, Handler.console, Option.getD_some, Layout.render_console]
    rfl
  have hsend : (w.send .stderr w.color.layers
      (consoleLine w.color level logger text ++ "\n").toList).files = w.files := rfl
  have htaken : ¬ ((Record.ofText level logger text).level < w.level ∨
      (Record.ofText level logger text).level ≤ 0) := by
    simp only [Record.ofText]
    omega
  have hhandlers : ¬ w.handlers = [] := by
    rw [hw]
    exact List.cons_ne_nil _ _
  rw [logText, log_eq_receiveAll rfl, if_neg htaken, if_neg hhandlers, hw, receiveAll, hconsole]
  simp only [receiveAll_logFiles, hsend]
  rfl

/-- A text at a level that is passed over. -/
theorem logText_of_not_taken {level : Int} (h : ¬ (w.level ≤ level ∧ 0 < level))
    (logger text : String) : w.logText level logger text = w := by
  rw [logText, log_eq, if_pos]
  simp only [Record.ofText]
  omega

/-- A text at a lower level is passed over. -/
theorem logText_of_lt {level : Int} (h : level < w.level) (logger text : String) :
    w.logText level logger text = w :=
  logText_of_not_taken (by omega) logger text

/-- The report on colours is a detail, and passed over where details are not logged. -/
theorem reportColor_of_info (hlevel : w.level = infoLevel) (wish : Value) :
    w.reportColor wish = w :=
  logText_of_lt (by rw [hlevel]; decide) _ _

/-! ## What logging leaves as it is -/

/-- Nothing but the log has changed from one world to another: handlers have stayed, and files have
changed only as far as something is logged. -/
structure Logged (w w' : World) : Prop where
  stdout : w'.stdout = w.stdout
  color : w'.color = w.color
  level : w'.level = w.level
  logsTo : ∃ logs, w'.LogsTo logs

theorem Logged.trans (h : Logged w w') (h' : Logged w' w'') : Logged w w'' :=
  ⟨h'.stdout.trans h.stdout, h'.color.trans h.color, h'.level.trans h.level, h'.logsTo⟩

/-- **Logging a text** changes nothing but the log. -/
theorem logged_logText (hw : w.LogsTo logs) (level : Int) (logger text : String) :
    Logged w (w.logText level logger text) := by
  by_cases htaken : w.level ≤ level ∧ 0 < level
  · rw [logText_of_logsTo hw htaken.1 htaken.2]
    exact ⟨rfl, rfl, rfl, _, rfl⟩
  · rw [logText_of_not_taken htaken]
    exact ⟨rfl, rfl, rfl, logs, hw⟩

/-- Without log files, logging leaves all files as they are. -/
theorem files_logText_of_console (hw : w.LogsTo []) (level : Int)
    (logger text : String) : (w.logText level logger text).files = w.files := by
  by_cases htaken : w.level ≤ level ∧ 0 < level
  · rw [logText_of_logsTo hw htaken.1 htaken.2]
    rfl
  · rw [logText_of_not_taken htaken]

/-! ## Set-up -/

theorem logsTo_withConsole (w : World) : (w.withConsole false).LogsTo [] := by
  rw [withConsole]
  simp [LogsTo, addHandler, streamHandler, Handler.console]

theorem logsTo_addHandler {files : FileTree} (hw : w.LogsTo logs) (l : FileLog) :
    (({ w with files := files } : World).addHandler (.logFile l)).LogsTo (logs ++ [l]) := by
  simp only [LogsTo, addHandler, List.map_append, List.map_cons, List.map_nil]
  rw [show w.handlers = _ from hw]
  rfl

/-- **Nothing but the log changes** once the world is ready: the handler of a log file that can be
opened is added, and one that cannot be opened is reported. -/
theorem lasting_logged (w : World) : Lasting (Logged w) where
  opened _ _ _ h := ⟨h.stdout, h.color, h.level, h.logsTo⟩
  added l h := by
    obtain ⟨logs, hlogs⟩ := h.logsTo
    exact ⟨h.stdout, h.color, h.level, _, logsTo_addHandler hlogs l⟩
  logged level logger text h := by
    obtain ⟨logs, hlogs⟩ := h.logsTo
    exact h.trans (logged_logText hlogs level logger text)

theorem logged_addLogFile (hw : w.LogsTo logs) (path : String) (s : LogSettings) :
    Logged w (w.addLogFile path s).1 :=
  (lasting_logged w).addLogFile ⟨rfl, rfl, rfl, logs, hw⟩ path s

variable {s : LogSettings} {color : ColorState}

theorem logsTo_onConsole (w : World) (color : ColorState) (verbose : Bool) :
    (w.onConsole color verbose).LogsTo [] :=
  logsTo_withConsole _

/-- Set-up without a log file and without details: only the console is there. -/
theorem setUpLog_of_no_file
    (hcolor : w.color.force w.environment s.forceColor = .ok color) (hstay : s.preserve = false)
    (hverbose : s.verbose = false) (hfile : s.logFile = none) :
    w.setUpLog s = ({ w with color := color, level := infoLevel,
                             handlers := [.console color.layers] }, none) := by
  have hlevel : (w.onConsole color false).level = infoLevel := rfl
  rw [setUpLog_of_console hcolor hstay (by rw [hfile]; rfl), hverbose, reportColor_of_info hlevel]
  rfl

/-- Whatever log files are open, the working directory and the home directory stay once the world is
ready. -/
theorem lasting_sameRoots (t : FileTree) : Lasting fun w => SameRoots t w.files where
  opened path maxBytes backups h := h.trans (FileLog.sameRoots_start _ path maxBytes backups)
  added _ h := h
  logged _ _ _ h := (Keeping.log ⟨h, fun _ _ l _ => l.keeps_sameRoots t⟩ _).files

/-- **Set-up** leaves the working directory and the home directory. -/
theorem sameRoots_setUpLog (hcolor : w.color.force w.environment s.forceColor = .ok color) :
    SameRoots w.files (w.setUpLog s).1.files := by
  refine (lasting_sameRoots w.files).setUpLog hcolor ?_
  rw [files_readied]
  exact .refl w.files

end World

end PropertyFilter
