import PropertyFilter.Proofs.File.BadPath
import PropertyFilter.Proofs.Log.Silence
import PropertyFilter.Proofs.Log.Stages

/-!
# Setting up the log

Set-up gives up the handlers that are there, and adds one for the console and, if asked for, one for
a file. It prints nothing, and fails only on a wish for colours that is no truth value or on a file
whose path is no path.

## Main results

* `unprinted_setUpLog`: the surroundings after set-up
* `setUpLog_spec`: set-up on a log file whose path is a path
* `setUpLog_of_badPath`: set-up on a log file whose path is no path
-/

namespace PropertyFilter

namespace World

variable {w : World} {s : LogSettings} {color : Terminal.ColorState}

/-- **Nothing is printed** once the world is ready, and handlers stay quiet: a file that cannot be
opened is reported in the log. -/
theorem lasting_unprinted (w : World) : Lasting fun w' => Unprinted w w' ∧ w'.Quiet where
  opened _ _ _ h := ⟨⟨h.1.stdout, h.1.color⟩, h.2⟩
  added l h := by
    obtain ⟨hw, hquiet⟩ := h
    obtain ⟨hadd, hquiet'⟩ := unprinted_addHandler hquiet (h := ⟨.file l, some .plain⟩)
      (fun _ => by simp)
    exact ⟨hw.trans hadd, hquiet'⟩
  logged level logger text h := by
    obtain ⟨hw, hquiet⟩ := h
    obtain ⟨hlog, hquiet'⟩ := unprinted_logText hquiet level logger text
    exact ⟨hw.trans hlog, hquiet'⟩

/-- **The surroundings after set-up** without handlers that stay: nothing has been printed, colours
are as the wish decides, and no handler writes to standard output. -/
theorem unprinted_setUpLog (hcolor : w.color.force w.environment s.forceColor = .ok color)
    (hstay : s.preserve = false) :
    (w.setUpLog s).1.stdout = w.stdout ∧ (w.setUpLog s).1.color = color ∧
      (w.setUpLog s).1.Quiet := by
  let decided : World :=
    { w with color := color, level := if s.verbose then debugLevel else infoLevel }
  have hready : Unprinted decided (w.readied color s) ∧ (w.readied color s).Quiet := by
    rw [readied_of_not_preserve hstay]
    exact unprinted_withConsole decided
  obtain ⟨hw, hquiet⟩ := (lasting_unprinted decided).setUpLog hcolor hready
  exact ⟨hw.stdout, hw.color, hquiet⟩

/-- **Set-up** without handlers that stay: it prints nothing, colours are as the wish decides, and
no handler writes to standard output. -/
theorem setUpLog_spec (hcolor : w.color.force w.environment s.forceColor = .ok color)
    (hstay : s.preserve = false) (hpath : ∀ path ∈ s.logFile, NoNull path)
    (hbase : NoNull w.files.base) :
    ∃ w', w.setUpLog s = (w', none) ∧ w'.stdout = w.stdout ∧ w'.color = color ∧ w'.Quiet := by
  have hfault : (w.setUpLog s).2 = none := fault_setUpLog hcolor fun path hfile =>
    FileLog.start_ne_badPath (hpath path hfile) hbase s.maxBytes s.backups
  exact ⟨_, Prod.ext rfl hfault, unprinted_setUpLog hcolor hstay⟩

/-- Set-up fails on a log file whose path is no path; colours have been decided by then. -/
theorem setUpLog_of_badPath (hcolor : w.color.force w.environment s.forceColor = .ok color)
    (hstay : s.preserve = false) {path : String} (hfile : s.logFile = some path) (hpath : path ≠ "")
    (hstart : (FileLog.start w.files path s.maxBytes s.backups).2 = .error .badPath) :
    ∃ w', w.setUpLog s = (w', some .malformed) ∧ w'.color = color := by
  have hfault : (w.setUpLog s).2 = some .malformed := by
    rw [setUpLog_of_some_logFile hcolor hfile hpath, fault_addLogFile, files_readied, hstart]
  exact ⟨_, Prod.ext rfl hfault, (unprinted_setUpLog hcolor hstay).2.1⟩

end World

end PropertyFilter
