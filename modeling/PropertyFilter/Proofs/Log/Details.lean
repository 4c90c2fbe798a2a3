import PropertyFilter.Proofs.Log.Console

/-!
# What set-up leaves in the files

Set-up makes a log file and the directories on the way to it. Where details are logged, it also
writes two lines of its own to it: one about the file, and one about colours.

## Main definitions

* `World.openReport`, `World.colorReport`: what set-up reports as details
* `World.detail`: a detail as it stands in a log file

## Main results

* `World.files_setUpLog_of_console`: set-up without a log file
* `World.files_setUpLog_of_info`: set-up with a log file, without details
* `World.files_setUpLog_of_room`: set-up with a log file that there is room in
-/

namespace PropertyFilter

open Terminal (ColorState)

/-! ## Log files -/

namespace FileLog

variable {l : FileLog} {t : FileTree}

theorem isBlocked_appendTo (i : Nat) (bs : List UInt8) :
    l.isBlocked (t.appendTo i bs) = l.isBlocked t := by
  have hnode : ∀ place, (t.appendTo i bs).node? place = t.node? place := fun _ => rfl
  simp only [isBlocked, FileTree.has, FileTree.isFile, FileTree.resolve_appendTo, hnode]

theorem isFull_eq_false_iff {i : Nat} (hstream : l.stream = some i) {n : Nat} :
    l.isFull t n = false ↔
      0 < l.maxBytes → ((t.content i).length + n : Nat) < l.maxBytes := by
  simp [isFull, hstream]

/-- Where there is room for two lines, there is room for the second after the first. -/
theorem isFull_appendTo {i m n : Nat} (hstream : l.stream = some i) {bs : List UInt8}
    (h : l.isFull t n = false) (hn : bs.length + m ≤ n) :
    l.isFull (t.appendTo i bs) m = false := by
  rw [isFull_eq_false_iff hstream] at h ⊢
  have hlength := FileTree.length_content_appendTo t i bs
  omega

end FileLog

namespace World

variable {w : World} {s : LogSettings} {color : ColorState}

/-- What set-up reports about colours. -/
def colorReport (color : ColorState) (wish : Value) : String :=
  "Color support: " ++ color.supported.plain ++ " (" ++ (match wish with
    | .null => "auto"
    | _ => "forced") ++ ")"

/-- What set-up reports about a log file that it has opened. -/
def openReport (path : String) : String := "Log file initialized: " ++ path

theorem reportColor_eq (w : World) (wish : Value) :
    w.reportColor wish = w.logText debugLevel rootLogger (colorReport w.color wish) := rfl

/-- Without a log file, set-up leaves all files as they are. -/
theorem files_setUpLog_of_console (hcolor : w.color.force w.environment s.forceColor = .ok color)
    (hstay : s.preserve = false) (hfile : s.logFile.getD "" = "") :
    (w.setUpLog s).1.files = w.files := by
  rw [setUpLog_of_console hcolor hstay hfile, reportColor_eq]
  exact files_logText_of_console (logsTo_onConsole w color s.verbose) _ _ _

/-- A log file that is added, and details that are not logged: the files are those after it has been
opened. -/
theorem files_addLogFile_of_info (hw : w.LogsTo []) (hlevel : w.level = infoLevel) (path : String)
    (s : LogSettings) :
    (w.addLogFile path s).1.files = (FileLog.start w.files path s.maxBytes s.backups).1 := by
  unfold addLogFile
  generalize FileLog.start w.files path s.maxBytes s.backups = started
  obtain ⟨files, made⟩ := started
  cases made with
  | ok l =>
    simp only
    rw [logText_of_lt]
    · rfl
    · show debugLevel < w.level
      rw [hlevel]
      decide
  | error e =>
    cases e with
    | badPath => rfl
    | refused f =>
      exact files_logText_of_console (w := { w with files := files }) hw _ _ _

/-- **Set-up without details** leaves the files as they are after the log file has been opened. -/
theorem files_setUpLog_of_info (hcolor : w.color.force w.environment s.forceColor = .ok color)
    (hstay : s.preserve = false) (hverbose : s.verbose = false) {path : String}
    (hfile : s.logFile = some path) (hpath : path ≠ "") :
    (w.setUpLog s).1.files = (FileLog.start w.files path s.maxBytes s.backups).1 := by
  have hlogs := logsTo_onConsole w color false
  have hlevel : ((w.onConsole color false).addLogFile path s).1.level = infoLevel :=
    (logged_addLogFile hlogs path s).level
  have hadded := files_addLogFile_of_info hlogs rfl path s
  rw [setUpLog_of_logFile hcolor hstay hfile hpath, hverbose]
  dsimp only
  rw [reportColor_of_info hlevel, ite_self]
  exact hadded

/-! ## Details in the log file -/

/-- A detail of set-up as it stands in a log file. -/
def detail (text : String) : String := standardLine "DEBUG" rootLogger text ++ "\n"

/-- A detail that there is room for goes to the end of the log file. -/
theorem files_logText_of_room {l : FileLog} {i : Nat} (hw : w.LogsTo [l])
    (hlevel : w.level = debugLevel) (hblocked : l.isBlocked w.files = false)
    (hstream : l.stream = some i) (text : String)
    (hroom : l.isFull w.files (detail text).length = false) :
    (w.logText debugLevel rootLogger text).files =
        w.files.appendTo i (Text.encodeUtf8 (detail text)) ∧
      (w.logText debugLevel rootLogger text).LogsTo [l] := by
  have hwritten : writeLogs w.files (standardLine (levelName debugLevel) rootLogger text) [l] =
      (w.files.appendTo i (Text.encodeUtf8 (detail text)), [l]) := by
    have hname : levelName debugLevel = "DEBUG" := rfl
    have hwrite := FileLog.write_of_room hblocked hstream hroom
    simp only [writeLogs, hname, hwrite, detail]
  rw [logText_of_logsTo hw hlevel.le (by decide), hwritten]
  exact ⟨rfl, rfl⟩

/-- **Set-up with details** writes two of them to the end of a log file that there is room in. -/
theorem files_setUpLog_of_room (hcolor : w.color.force w.environment s.forceColor = .ok color)
    (hstay : s.preserve = false) (hverbose : s.verbose = true) {path : String}
    (hfile : s.logFile = some path) (hpath : path ≠ "") {t : FileTree} {l : FileLog} {i : Nat}
    (hstart : FileLog.start w.files path s.maxBytes s.backups = (t, .ok l))
    (hstream : l.stream = some i) (hblocked : l.isBlocked t = false)
    (hroom : l.isFull t ((detail (openReport path)).length +
      (Text.encodeUtf8 (detail (openReport path))).length +
      (detail (colorReport color s.forceColor)).length) = false) :
    (w.setUpLog s).1.files = (t.appendTo i (Text.encodeUtf8 (detail (openReport path)))).appendTo i
      (Text.encodeUtf8 (detail (colorReport color s.forceColor))) := by
  let w₁ : World := ({ w.onConsole color true with files := t } : World).addHandler (.logFile l)
  let w₂ : World := w₁.logText debugLevel rootLogger (openReport path)
  have hw₁ : w₁.LogsTo [l] := logsTo_addHandler (logsTo_onConsole w color true) l
  have hadd : (w.onConsole color true).addLogFile path s = (w₂, none) := by
    rw [addLogFile, show (w.onConsole color true).files = w.files from rfl, hstart]
    rfl
  have hroom₁ : l.isFull t (detail (openReport path)).length = false := by
    rw [FileLog.isFull_eq_false_iff hstream] at hroom ⊢
    omega
  obtain ⟨hfiles, hw₂⟩ := files_logText_of_room hw₁ rfl hblocked hstream (openReport path)
    hroom₁
  have hfiles : w₂.files = t.appendTo i (Text.encodeUtf8 (detail (openReport path))) := hfiles
  have hlogged : Logged w₁ w₂ := logged_logText hw₁ debugLevel rootLogger (openReport path)
  have hblocked₂ : l.isBlocked w₂.files = false := by
    rwa [hfiles, FileLog.isBlocked_appendTo]
  have hroom₂ : l.isFull w₂.files (detail (colorReport color s.forceColor)).length = false := by
    rw [hfiles]
    exact FileLog.isFull_appendTo hstream hroom (by omega)
  obtain ⟨hreport, -⟩ := files_logText_of_room hw₂ hlogged.level hblocked₂ hstream
    (colorReport color s.forceColor) hroom₂
  rw [setUpLog_of_logFile hcolor hstay hfile hpath, hverbose, hadd, if_pos rfl, reportColor_eq,
    show w₂.color = color from hlogged.color, hreport, hfiles]

end World

end PropertyFilter
