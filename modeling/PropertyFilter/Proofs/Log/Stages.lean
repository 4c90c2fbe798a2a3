import PropertyFilter.Log.World

/-!
# The stages of set-up

Setting up the log goes through stages. Once colours are decided the world is made ready: it has a
level, and one of its handlers is that of the console. Then a log file is added if one is asked for,
and in the end colours are reported. What stages do beyond the first is little: they open a file,
add a handler for it, and log texts.

## Main definitions

* `World.readied`, `World.onConsole`: the world as set-up makes it ready; in the second case no
  handlers have stayed, and the log goes to the console alone
* `World.Lasting P`: `P` is kept by opening files, adding their handlers and logging texts

## Main results

* `World.setUpLog_of_no_logFile`, `World.setUpLog_of_some_logFile`: set-up without a log file and
  with one
* `World.Lasting.setUpLog`: what lasts and holds of the world made ready holds after set-up
* `World.fault_setUpLog`: set-up fails on no file whose path is a path
-/

namespace PropertyFilter

open Terminal (ColorState)

namespace World

variable {w : World} {s : LogSettings} {color : ColorState}

/-- The world once colours are decided and one of the handlers is that of the console. -/
def readied (w : World) (color : ColorState) (s : LogSettings) : World :=
  World.withConsole
    { w with color := color, level := if s.verbose then debugLevel else infoLevel } s.preserve

/-- Set-up without a log file. -/
theorem setUpLog_of_no_logFile (hcolor : w.color.force w.environment s.forceColor = .ok color)
    (hfile : s.logFile.getD "" = "") :
    w.setUpLog s = ((w.readied color s).reportColor s.forceColor, none) := by
  unfold setUpLog
  rw [hcolor]
  dsimp only
  split
  · rfl
  · rfl
  · next path hpath hlogFile => exact absurd hfile (by simpa [hlogFile] using hpath)

/-- Set-up with a log file. -/
theorem setUpLog_of_some_logFile (hcolor : w.color.force w.environment s.forceColor = .ok color)
    {path : String} (hfile : s.logFile = some path) (hpath : path ≠ "") :
    w.setUpLog s =
      (if ((w.readied color s).addLogFile path s).2 = none then
          ((w.readied color s).addLogFile path s).1.reportColor s.forceColor
        else ((w.readied color s).addLogFile path s).1,
        ((w.readied color s).addLogFile path s).2) := by
  unfold setUpLog
  rw [hcolor, hfile]
  dsimp only
  split
  · contradiction
  · next heq => exact absurd (Option.some.inj heq) hpath
  · next heq =>
    obtain rfl := Option.some.inj heq
    rw [readied]
    generalize World.addLogFile _ path s = added
    obtain ⟨w', fault⟩ := added
    cases fault <;> rfl

/-- The world once colours are decided and the log goes to the console alone. -/
def onConsole (w : World) (color : ColorState) (verbose : Bool) : World :=
  World.withConsole
    { w with color := color, level := if verbose then debugLevel else infoLevel } false

theorem readied_of_not_preserve (hstay : s.preserve = false) :
    w.readied color s = w.onConsole color s.verbose := by
  rw [readied, hstay]
  rfl

theorem setUpLog_of_console (hcolor : w.color.force w.environment s.forceColor = .ok color)
    (hstay : s.preserve = false) (hfile : s.logFile.getD "" = "") :
    w.setUpLog s = ((w.onConsole color s.verbose).reportColor s.forceColor, none) := by
  rw [setUpLog_of_no_logFile hcolor hfile, readied_of_not_preserve hstay]

theorem setUpLog_of_logFile (hcolor : w.color.force w.environment s.forceColor = .ok color)
    (hstay : s.preserve = false) {path : String} (hfile : s.logFile = some path)
    (hpath : path ≠ "") :
    w.setUpLog s =
      (if ((w.onConsole color s.verbose).addLogFile path s).2 = none then
          ((w.onConsole color s.verbose).addLogFile path s).1.reportColor s.forceColor
        else ((w.onConsole color s.verbose).addLogFile path s).1,
        ((w.onConsole color s.verbose).addLogFile path s).2) := by
  rw [setUpLog_of_some_logFile hcolor hfile hpath, readied_of_not_preserve hstay]

theorem exists_logFile_of_ne {file : Option String} (h : file.getD "" ≠ "") :
    ∃ path, file = some path ∧ path ≠ "" := by
  cases file with
  | none => contradiction
  | some path => exact ⟨path, rfl, h⟩

/-- Nothing is changed for the console but handlers. -/
theorem exists_withConsole_eq (w : World) (preserve : Bool) :
    ∃ handlers, w.withConsole preserve = { w with handlers := handlers } := by
  have hkept : ∃ handlers, (if preserve then w else { w with handlers := [] }) =
      { w with handlers := handlers } := by
    cases preserve <;> exact ⟨_, rfl⟩
  obtain ⟨handlers, hkept⟩ := hkept
  rw [withConsole, hkept]
  dsimp only
  split <;> exact ⟨_, rfl⟩

theorem files_readied (w : World) (color : ColorState) (s : LogSettings) :
    (w.readied color s).files = w.files := by
  obtain ⟨handlers, hconsole⟩ := exists_withConsole_eq
    { w with color := color, level := if s.verbose then debugLevel else infoLevel } s.preserve
  rw [readied, hconsole]

/-! ## Faults -/

/-- A log file fails only if its path is no path; else it is opened, or its refusal reported. -/
theorem fault_addLogFile (w : World) (path : String) (s : LogSettings) :
    (w.addLogFile path s).2 =
      match (FileLog.start w.files path s.maxBytes s.backups).2 with
      | .error .badPath => some .malformed
      | _ => none := by
  unfold addLogFile
  generalize FileLog.start w.files path s.maxBytes s.backups = started
  obtain ⟨files, made⟩ := started
  cases made with
  | ok l => rfl
  | error e => cases e <;> rfl

/-- Set-up fails on no file whose path is a path. -/
theorem fault_setUpLog (hcolor : w.color.force w.environment s.forceColor = .ok color)
    (hstart : ∀ path ∈ s.logFile,
      (FileLog.start w.files path s.maxBytes s.backups).2 ≠ .error .badPath) :
    (w.setUpLog s).2 = none := by
  by_cases hfile : s.logFile.getD "" = ""
  · rw [setUpLog_of_no_logFile hcolor hfile]
  · obtain ⟨path, hlogFile, hpath⟩ := exists_logFile_of_ne hfile
    have hne := hstart path hlogFile
    rw [setUpLog_of_some_logFile hcolor hlogFile hpath, fault_addLogFile, files_readied]
    split
    · contradiction
    · rfl

/-! ## What lasts -/

/-- A property of worlds that is kept by whatever set-up does once the world is ready. -/
structure Lasting (P : World → Prop) : Prop where
  opened : ∀ {w} (path : String) (maxBytes backups : Int), P w →
    P { w with files := (FileLog.start w.files path maxBytes backups).1 }
  added : ∀ {w} (l : FileLog), P w → P (w.addHandler ⟨.file l, some .plain⟩)
  logged : ∀ {w} (level : Int) (logger text : String), P w → P (w.logText level logger text)

namespace Lasting

variable {P : World → Prop}

/-- Adding a log file keeps what lasts, whether the file can be opened or not. -/
theorem addLogFile (hP : Lasting P) (hw : P w) (path : String) (s : LogSettings) :
    P (w.addLogFile path s).1 := by
  have hopened := hP.opened path s.maxBytes s.backups hw
  unfold World.addLogFile
  generalize FileLog.start w.files path s.maxBytes s.backups = started at hopened ⊢
  obtain ⟨files, made⟩ := started
  cases made with
  | ok l => exact hP.logged _ _ _ (hP.added l hopened)
  | error e =>
    cases e with
    | badPath => exact hopened
    | refused f => exact hP.logged _ _ _ hopened

/-- **Set-up** keeps what lasts, from the world made ready to the end. -/
theorem setUpLog (hP : Lasting P)
    (hcolor : w.color.force w.environment s.forceColor = .ok color)
    (hready : P (w.readied color s)) : P (w.setUpLog s).1 := by
  by_cases hfile : s.logFile.getD "" = ""
  · rw [setUpLog_of_no_logFile hcolor hfile]
    exact hP.logged _ _ _ hready
  · obtain ⟨path, hlogFile, hpath⟩ := exists_logFile_of_ne hfile
    have hadded := hP.addLogFile hready path s
    rw [setUpLog_of_some_logFile hcolor hlogFile hpath]
    dsimp only
    split
    · exact hP.logged _ _ _ hadded
    · exact hadded

end Lasting

end World

end PropertyFilter
