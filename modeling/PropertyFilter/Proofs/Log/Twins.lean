import PropertyFilter.Proofs.File.PathText
import PropertyFilter.Proofs.Log.Console
import PropertyFilter.Proofs.Log.Pairs
import PropertyFilter.Proofs.Value.Display

/-!
# The same steps with colours and without

Two worlds that take the same steps, the one with colours and the other without, differ in style
codes only. Whatever both print stays the same up to style codes, and so does what they log, unless
details are logged: details may tell the worlds apart.

## Main definitions

* `World.Twins verbose w₁ w₂`: `w₁` is like `w₂`, but with style codes
* `World.Alike verbose r₁ r₂`: the same for worlds after a step, whose results are equal

## Main results

* `World.Twins.logText`, `World.Twins.details₁`, `World.Twins.details₂`: logging
* `World.Twins.printLines`, `World.Twins.write`: output
* `World.alike_setUpLog`: setting up the log
-/

namespace PropertyFilter

open Terminal (ColorState Inert IsStyle Tinted tinted_colored)

/-! ## Lines on the console -/

theorem isStyle_levelStyle (level : Int) : IsStyle (Layout.levelStyle level).1 := by
  unfold Layout.levelStyle
  split
  · exact Terminal.isStyle_codeText 36
  split
  · exact Terminal.isStyle_codeText 32
  split
  · exact Terminal.isStyle_codeText 33
  split
  · exact Terminal.isStyle_codeText 31
  split
  · exact Terminal.isStyle_codeText 35
  · exact .inl rfl

theorem inert_levelName (level : Int) : TextOver Inert (levelName level) := by
  unfold levelName
  split
  · decide
  split
  · decide
  split
  · decide
  split
  · decide
  split
  · decide
  split
  · decide
  · exact TextOver.append (by decide) (inert_intText level)

/-- **A line on the console** with colours is the line without, with style codes. -/
theorem tinted_consoleLine (color₁ : ColorState) {color₂ : ColorState} (hoff : color₂.isOn = false)
    (level : Int) {logger text : String} (hlogger : TextOver Inert logger)
    (htext : TextOver Inert text) :
    Tinted (consoleLine color₁ level logger text ++ "\n").toList
      (consoleLine color₂ level logger text ++ "\n").toList := by
  have hliteral : ∀ {s : String}, TextOver Inert s → Tinted s.toList s.toList :=
    fun hs => .of_inert hs
  have hstamp :
      Tinted ("1970-01-01 00:00:00" ++ " [").toList ("1970-01-01 00:00:00" ++ " [").toList :=
    hliteral (by decide)
  have hmarks : TextOver Inert "] " ∧ TextOver Inert ": " ∧ TextOver Inert "\n" := by decide
  have hlevel := tinted_colored color₁ hoff (isStyle_levelStyle level)
    (inert_levelName level) (Layout.levelStyle level).2
  have hmessage := tinted_colored color₁ hoff (isStyle_levelStyle level) htext false
  have hfront := ((hstamp.append hlevel).append (hliteral hmarks.1)).append (hliteral hlogger)
  have hline := ((hfront.append (hliteral hmarks.2.1)).append hmessage).append
    (hliteral hmarks.2.2)
  simp only [← String.toList_append] at hline
  exact hline

namespace World

variable {verbose : Bool} {w₁ w₂ : World}

/-- The first world is like the second, but with style codes in what has been written. Where details
are logged, standard error may hold different ones. -/
structure Twins (verbose : Bool) (w₁ w₂ : World) : Prop where
  layers₁ : w₁.color.layers = 0
  layers₂ : w₂.color.layers = 1
  off : w₂.color.isOn = false
  level₁ : w₁.level = if verbose then debugLevel else infoLevel
  level₂ : w₂.level = if verbose then debugLevel else infoLevel
  stdout : Tinted w₁.stdout w₂.stdout
  stderr : verbose = false → Tinted w₁.stderr w₂.stderr
  inert : ∀ c ∈ w₂.stderr, Inert c
  logs₁ : ∃ logs, w₁.LogsTo logs
  logs₂ : ∃ logs, w₂.LogsTo logs

/-- Worlds after a step that are twins, with equal results. -/
def Alike {α : Type} (verbose : Bool) (r₁ r₂ : World × α) : Prop :=
  Twins verbose r₁.1 r₂.1 ∧ r₁.2 = r₂.2

namespace Twins

/-- In the first world, no layer stands before the streams. -/
theorem deliver₁ (h : Twins verbose w₁ w₂) (cs : List Char) :
    Terminal.deliver w₁.color.layers cs = ⟨cs, none⟩ := by
  rw [h.layers₁]
  rfl

/-- In the second world, inert characters arrive. -/
theorem deliver₂ (h : Twins verbose w₁ w₂) {cs : List Char} (hcs : ∀ c ∈ cs, Inert c) :
    Terminal.deliver w₂.color.layers cs = ⟨cs, none⟩ := by
  rw [h.layers₂]
  exact (Tinted.of_inert hcs).deliver_one

/-! ## Logging -/

/-- **Logging a report**: both worlds log it, on the console with colours or without. -/
theorem logText (h : Twins verbose w₁ w₂) {level : Int} (hlevel : infoLevel ≤ level)
    {logger text : String} (hlogger : TextOver Inert logger) (htext : TextOver Inert text) :
    Twins verbose (w₁.logText level logger text) (w₂.logText level logger text) := by
  have hpos : 0 < level := by
    have : infoLevel = 20 := rfl
    omega
  have hsettings : (if verbose then debugLevel else infoLevel) ≤ level := by
    have : debugLevel = 10 ∧ infoLevel = 20 := ⟨rfl, rfl⟩
    split <;> omega
  obtain ⟨logs₁, hlogs₁⟩ := h.logs₁
  obtain ⟨logs₂, hlogs₂⟩ := h.logs₂
  have hline := tinted_consoleLine w₁.color h.off level hlogger htext
  have harrived₁ := h.deliver₁ (consoleLine w₁.color level logger text ++ "\n").toList
  have harrived₂ := h.deliver₂ hline.inert
  rw [logText_of_logsTo hlogs₁ (h.level₁ ▸ hsettings) hpos,
    logText_of_logsTo hlogs₂ (h.level₂ ▸ hsettings) hpos, harrived₁, harrived₂]
  exact { h with
    stderr := fun hverbose => (h.stderr hverbose).append hline
    inert := List.forall_mem_append.mpr ⟨h.inert, hline.inert⟩
    logs₁ := ⟨_, rfl⟩
    logs₂ := ⟨_, rfl⟩ }

/-- **Logging details** in the first world only. -/
theorem details₁ (h : Twins verbose w₁ w₂) (logger text : String) :
    Twins verbose (w₁.logText debugLevel logger text) w₂ := by
  cases verbose with
  | false =>
    rw [logText_of_lt (by simp [h.level₁, debugLevel, infoLevel])]
    exact h
  | true =>
    obtain ⟨logs, hlogs⟩ := h.logs₁
    have hlogged := logged_logText hlogs debugLevel logger text
    exact { h with
      layers₁ := hlogged.color ▸ h.layers₁
      level₁ := hlogged.level ▸ h.level₁
      stdout := hlogged.stdout ▸ h.stdout
      stderr := fun hverbose => Bool.noConfusion hverbose
      logs₁ := hlogged.logsTo }

/-- **Logging details** in the second world only. -/
theorem details₂ (h : Twins verbose w₁ w₂) {logger text : String}
    (hlogger : TextOver Inert logger) (htext : TextOver Inert text) :
    Twins verbose w₁ (w₂.logText debugLevel logger text) := by
  cases verbose with
  | false =>
    rw [logText_of_lt (by simp [h.level₂, debugLevel, infoLevel])]
    exact h
  | true =>
    obtain ⟨logs, hlogs⟩ := h.logs₂
    have hline := tinted_consoleLine w₂.color h.off debugLevel hlogger htext
    rw [logText_of_logsTo hlogs (by simp [h.level₂]) (by decide), h.deliver₂ hline.inert]
    exact { h with
      stderr := fun hverbose => Bool.noConfusion hverbose
      inert := List.forall_mem_append.mpr ⟨h.inert, hline.inert⟩
      logs₂ := ⟨_, rfl⟩ }

theorem notices₁ (h : Twins verbose w₁ w₂) (notices : List Notice) :
    Twins verbose (notices.foldl notice w₁) w₂ := by
  induction notices generalizing w₁ with
  | nil => exact h
  | cons n notices ih => exact ih (h.details₁ n.logger n.message)

theorem notices₂ (h : Twins verbose w₁ w₂) {notices : List Notice}
    (hnotices : ∀ n ∈ notices, TextOver Inert n.message) :
    Twins verbose w₁ (notices.foldl notice w₂) := by
  induction notices generalizing w₂ with
  | nil => exact h
  | cons n notices ih =>
    rw [List.forall_mem_cons] at hnotices
    have hlogger : TextOver Inert n.logger := by
      unfold Notice.logger
      split <;> decide
    exact ih (h.details₂ hlogger hnotices.1) hnotices.2

/-! ## Output -/

theorem put (h : Twins verbose w₁ w₂) {cs ds : List Char} (hcs : Tinted cs ds) :
    Twins verbose (w₁.put .stdout cs) (w₂.put .stdout ds) :=
  { h with stdout := h.stdout.append hcs }

theorem write (h : Twins verbose w₁ w₂) {s : String} (hs : TextOver Inert s) :
    Alike verbose (w₁.write .stdout s) (w₂.write .stdout s) := by
  rw [World.write, World.write, h.deliver₁, h.deliver₂ hs]
  exact ⟨h.put (.of_inert hs), rfl⟩

theorem printLine (h : Twins verbose w₁ w₂) {s₁ s₂ : String} (hs : Tinted s₁.toList s₂.toList) :
    Alike verbose (w₁.printLine s₁) (w₂.printLine s₂) := by
  have hbreak : ∀ c ∈ ['\n'], Inert c := List.forall_mem_singleton.mpr (by decide)
  rw [World.printLine, World.printLine, Terminal.deliverLine, Terminal.deliverLine, h.deliver₁,
    h.deliver₁, h.deliver₂ hs.inert, h.deliver₂ hbreak]
  exact ⟨h.put (hs.append (.of_inert hbreak)), rfl⟩

/-- **Printing lines**, each of which differs in style codes. -/
theorem printLines (h : Twins verbose w₁ w₂) {lines₁ lines₂ : List String}
    (hlines : List.Forall₂ (fun s₁ s₂ => Tinted s₁.toList s₂.toList) lines₁ lines₂) :
    Alike verbose (w₁.printLines lines₁) (w₂.printLines lines₂) :=
  paired_printLines (fun h hs => h.printLine hs) h hlines

end Twins

/-! ## Set-up -/

theorem inert_rootLogger : TextOver Inert rootLogger := by decide

/-- **Adding a log file** to worlds that log to the console. Unless details are logged, the files
stay the same in both. -/
theorem alike_addLogFile (h : Twins verbose w₁ w₂) (hlogs₁ : w₁.LogsTo []) (hlogs₂ : w₂.LogsTo [])
    (hfiles : w₁.files = w₂.files) {path : String} (hpath : TextOver Inert path)
    (s : LogSettings) :
    Alike verbose (w₁.addLogFile path s) (w₂.addLogFile path s) ∧
      (verbose = false →
        (w₁.addLogFile path s).1.files = (w₂.addLogFile path s).1.files) := by
  unfold addLogFile
  rw [hfiles]
  generalize FileLog.start w₂.files path s.maxBytes s.backups = started
  obtain ⟨files, made⟩ := started
  have hstarted : Twins verbose { w₁ with files := files } { w₂ with files := files } := { h with }
  cases made with
  | error e =>
    cases e with
    | badPath => exact ⟨⟨hstarted, rfl⟩, fun _ => rfl⟩
    | refused f =>
      have hreport : TextOver Inert ("Failed to initialize log file " ++ path ++ ": "
          ++ f.message) :=
        ((TextOver.append (by decide) hpath).append (by decide)).append f.inert_message
      refine ⟨⟨hstarted.logText (by decide) inert_rootLogger hreport, rfl⟩, fun _ => ?_⟩
      have hfiles₁ := files_logText_of_console (w := { w₁ with files := files }) hlogs₁ errorLevel
        rootLogger ("Failed to initialize log file " ++ path ++ ": " ++ f.message)
      have hfiles₂ := files_logText_of_console (w := { w₂ with files := files }) hlogs₂ errorLevel
        rootLogger ("Failed to initialize log file " ++ path ++ ": " ++ f.message)
      exact hfiles₁.trans hfiles₂.symm
  | ok l =>
    have hadded : Twins verbose (({ w₁ with files := files } : World).addHandler (.logFile l))
        (({ w₂ with files := files } : World).addHandler (.logFile l)) := by
      exact { hstarted with
        logs₁ := ⟨[l], logsTo_addHandler hlogs₁ l⟩
        logs₂ := ⟨[l], logsTo_addHandler hlogs₂ l⟩ }
    have hreport : TextOver Inert ("Log file initialized: " ++ path) :=
      TextOver.append (by decide) hpath
    refine ⟨⟨(hadded.details₁ rootLogger _).details₂ inert_rootLogger hreport, rfl⟩,
      fun hverbose => ?_⟩
    subst hverbose
    have hlevel₁ : debugLevel < (({ w₁ with files := files } : World).addHandler
        (.logFile l)).level := by
      rw [hadded.level₁]
      decide
    have hlevel₂ : debugLevel < (({ w₂ with files := files } : World).addHandler
        (.logFile l)).level := by
      rw [hadded.level₂]
      decide
    have hpassed₁ := logText_of_lt hlevel₁ rootLogger ("Log file initialized: " ++ path)
    have hpassed₂ := logText_of_lt hlevel₂ rootLogger ("Log file initialized: " ++ path)
    rw [Handler.logFile] at hpassed₁ hpassed₂
    simp only
    rw [hpassed₁, hpassed₂]
    rfl

/-- **Setting up the log** with two wishes for colours, the first of which puts no layer around the
streams and the second a single one. Unless details go to a log file, the files stay the same in
both worlds. -/
theorem alike_setUpLog {w : World} {s : LogSettings} {wish : Value} {color₁ color₂ : ColorState}
    (hcolor₁ : w.color.force w.environment s.forceColor = .ok color₁)
    (hcolor₂ : w.color.force w.environment wish = .ok color₂)
    (hlayers₁ : color₁.layers = 0) (hlayers₂ : color₂.layers = 1) (hoff : color₂.isOn = false)
    (hsupported : TextOver Inert color₂.supported.plain) (hstay : s.preserve = false)
    (hstdout : w.stdout = []) (hstderr : w.stderr = [])
    (hpath : ∀ path ∈ s.logFile, TextOver Inert path) :
    Alike s.verbose (w.setUpLog s) (w.setUpLog { s with forceColor := wish }) ∧
      (s.verbose = false ∨ s.logFile.getD "" = "" →
        (w.setUpLog s).1.files = (w.setUpLog { s with forceColor := wish }).1.files) := by
  have hlogs : ∀ color, (w.onConsole color s.verbose).LogsTo [] :=
    fun color => logsTo_withConsole _
  have hconsole : Twins s.verbose (w.onConsole color₁ s.verbose) (w.onConsole color₂ s.verbose) := {
    layers₁ := hlayers₁
    layers₂ := hlayers₂
    off := hoff
    level₁ := rfl
    level₂ := rfl
    stdout := by
      show Tinted w.stdout w.stdout
      rw [hstdout]
      exact .nil
    stderr := fun _ => by
      show Tinted w.stderr w.stderr
      rw [hstderr]
      exact .nil
    inert := by
      show ∀ c ∈ w.stderr, Inert c
      simp [hstderr]
    logs₁ := ⟨[], hlogs color₁⟩
    logs₂ := ⟨[], hlogs color₂⟩ }
  have hreport : ∀ {w₁ w₂ : World}, Twins s.verbose w₁ w₂ → w₂.color = color₂ →
      Twins s.verbose (w₁.reportColor s.forceColor) (w₂.reportColor wish) := by
    intro w₁ w₂ h hcolor
    unfold reportColor
    refine (h.details₁ rootLogger _).details₂ inert_rootLogger ?_
    simp only [textOver_append_iff]
    rw [hcolor]
    refine ⟨⟨⟨⟨by decide, hsupported⟩, by decide⟩, ?_⟩, by decide⟩
    split <;> decide
  by_cases hfile : s.logFile.getD "" = ""
  · rw [setUpLog_of_console hcolor₁ hstay hfile,
      setUpLog_of_console (s := { s with forceColor := wish }) hcolor₂ hstay hfile]
    refine ⟨⟨hreport hconsole rfl, rfl⟩, fun _ => ?_⟩
    have hfiles₁ := files_logText_of_console (hlogs color₁) debugLevel rootLogger
    have hfiles₂ := files_logText_of_console (hlogs color₂) debugLevel rootLogger
    exact (hfiles₁ _).trans (hfiles₂ _).symm
  · obtain ⟨path, hlogFile, hne⟩ := exists_logFile_of_ne hfile
    rw [setUpLog_of_logFile hcolor₁ hstay hlogFile hne,
      setUpLog_of_logFile (s := { s with forceColor := wish }) hcolor₂ hstay hlogFile hne]
    have hsame : (w.onConsole color₂ s.verbose).addLogFile path { s with forceColor := wish } =
        (w.onConsole color₂ s.verbose).addLogFile path s := rfl
    obtain ⟨⟨hadded, hfault⟩, hfiles⟩ := alike_addLogFile hconsole (hlogs color₁) (hlogs color₂)
      rfl (hpath path hlogFile) s
    rw [hsame]
    generalize (w.onConsole color₁ s.verbose).addLogFile path s = r₁ at hadded hfault hfiles ⊢
    generalize hr₂ : (w.onConsole color₂ s.verbose).addLogFile path s = r₂
      at hadded hfault hfiles ⊢
    obtain ⟨w₁, fault⟩ := r₁
    obtain ⟨w₂, _⟩ := r₂
    obtain rfl : fault = _ := hfault
    cases fault with
    | some e => exact ⟨⟨hadded, rfl⟩, fun h => hfiles (h.resolve_right hfile)⟩
    | none =>
      have hcolor : w₂.color = color₂ := by
        have hlogged := logged_addLogFile (hlogs color₂) path s
        rw [hr₂] at hlogged
        exact hlogged.color
      refine ⟨⟨hreport hadded hcolor, rfl⟩, fun h => ?_⟩
      have hquiet := h.resolve_right hfile
      have hlevel₁ : w₁.level = infoLevel := by
        rw [hadded.level₁, hquiet]
        rfl
      have hlevel₂ : w₂.level = infoLevel := by
        rw [hadded.level₂, hquiet]
        rfl
      show (w₁.reportColor s.forceColor).files = (w₂.reportColor wish).files
      rw [reportColor_of_info hlevel₁, reportColor_of_info hlevel₂]
      exact hfiles hquiet

end World

end PropertyFilter
