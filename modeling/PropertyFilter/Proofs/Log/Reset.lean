import PropertyFilter.Proofs.File.BadPath
import PropertyFilter.Proofs.Log.Details
import PropertyFilter.Proofs.Log.Reopening
import PropertyFilter.Proofs.Log.Repetition

/-!
# Setting up the log anew

Whatever has happened to the log, setting it up without handlers that stay leaves the handler of the
console, and behind it that of the log file if one is asked for and can be opened. Doing so again
leaves the same handlers, as the log file can be opened again, unless moving it aside has taken away
a directory through which its path leads. Where handlers stay, all of them stay, in front of those
that are added, and a log file that cannot be opened adds none.

## Main definitions

* `World.LogSettings.Opens s t`: a log file is asked for and can be opened
* `World.LogSettings.Adds s t logs`: the handlers that set-up adds for log files
* `World.LogSettings.LeadsThroughBackup s t`: moving the log file aside may take its directory away

## Main results

* `World.installed_setUpLog`, `World.level_setUpLog`: the handlers and the level after set-up
* `World.opens_again`: a log file can be opened again just if it could be opened
* `World.setUpLog_resets`: set-up after any history
-/

namespace PropertyFilter

open Terminal (ColorState)

namespace World

variable {w : World} {s : LogSettings} {color : ColorState} {path : String}

/-! ## The handlers after set-up -/

/-- A log file is asked for, and its directory and the file itself can be made or opened. -/
def LogSettings.Opens (s : LogSettings) (t : FileTree) : Prop :=
  s.logFile.getD "" ≠ "" ∧
    (t.makeDirectories (Path.ofText (s.logFile.getD "")).parent).2.isOk = true ∧
    ((t.makeDirectories (Path.ofText (s.logFile.getD "")).parent).1.openAppend
      ((Path.ofText (s.logFile.getD "")).normalized t.base)).isOk = true

/-- The log file that is asked for. -/
def LogSettings.fileLog (s : LogSettings) (t : FileTree) : FileLog :=
  ⟨(Path.ofText (s.logFile.getD "")).normalized t.base, s.maxBytes, s.backups, none⟩

/-- The handlers that set-up adds for log files: one if a log file is asked for and can be opened,
and else none. -/
def LogSettings.Adds (s : LogSettings) (t : FileTree) (logs : List Handler) : Prop :=
  (s.Opens t → logs = [.logFile (s.fileLog t)]) ∧ (¬ s.Opens t → logs = [])

theorem opens_iff {t : FileTree} (hfile : s.logFile = some path) (hpath : path ≠ "") :
    s.Opens t ↔ ∃ t' l, FileLog.start t path s.maxBytes s.backups = (t', .ok l) := by
  have hbase := (FileTree.SameRoots.makeDirectories t (Path.ofText path).parent).base
  rw [LogSettings.Opens, hfile, Option.getD_some, FileLog.start]
  dsimp only
  generalize t.makeDirectories (Path.ofText path).parent = made at hbase ⊢
  obtain ⟨t₁, made⟩ := made
  dsimp only at hbase
  rw [← hbase]
  cases made with
  | error e => simp [Except.isOk, Except.toBool]
  | ok _ =>
    dsimp only
    cases t₁.openAppend ((Path.ofText path).normalized t₁.base) with
    | error e => simp [Except.isOk, Except.toBool]
    | ok opened => simp [Except.isOk, Except.toBool, hpath]

theorem closed_of_start {t t' : FileTree} {l : FileLog} (hfile : s.logFile = some path)
    (hstart : FileLog.start t path s.maxBytes s.backups = (t', .ok l)) :
    l.closed = s.fileLog t := by
  obtain ⟨t₁, i, -, -, rfl⟩ := FileLog.start_ok hstart
  rw [LogSettings.fileLog, hfile]
  rfl

/-- A log file that can be opened adds its handler; what is reported adds none. -/
theorem installed_addLogFile (w : World) (hfile : s.logFile = some path) (hpath : path ≠ "") :
    ∃ logs, (w.addLogFile path s).1.installed = w.installed ++ logs ∧ s.Adds w.files logs := by
  have hopens := opens_iff (t := w.files) hfile hpath
  have hclosed : ∀ t' l, FileLog.start w.files path s.maxBytes s.backups = (t', .ok l) →
      l.closed = s.fileLog w.files := fun _ _ => closed_of_start hfile
  unfold addLogFile
  generalize FileLog.start w.files path s.maxBytes s.backups = started at hopens hclosed ⊢
  obtain ⟨files, made⟩ := started
  cases made with
  | ok l =>
    refine ⟨[.logFile (s.fileLog w.files)], ?_, fun _ => rfl, fun hnot => ?_⟩
    · rw [← hclosed files l rfl]
      exact (installed_log _ _).trans (installed_addHandler _ _)
    · exact absurd (hopens.mpr ⟨files, l, rfl⟩) hnot
  | error e =>
    refine ⟨[], ?_, fun hopen => ?_, fun _ => rfl⟩
    · rw [List.append_nil]
      cases e with
      | badPath => rfl
      | refused f => exact installed_log _ _
    · obtain ⟨t', l, hl⟩ := hopens.mp hopen
      simp at hl

/-- **The handlers after set-up** are those of the world made ready, and that of the log file. -/
theorem installed_setUpLog (hcolor : w.color.force w.environment s.forceColor = .ok color) :
    ∃ logs, (w.setUpLog s).1.installed = (w.readied color s).installed ++ logs ∧
      s.Adds w.files logs := by
  by_cases hfile : s.logFile.getD "" = ""
  · refine ⟨[], ?_, fun hopen => absurd hfile hopen.1, fun _ => rfl⟩
    rw [setUpLog_of_no_logFile hcolor hfile, List.append_nil]
    exact installed_log _ _
  · obtain ⟨path, hlogFile, hpath⟩ := exists_logFile_of_ne hfile
    obtain ⟨logs, hadded, hlogs⟩ := installed_addLogFile (w.readied color s) hlogFile hpath
    rw [files_readied] at hlogs
    refine ⟨logs, ?_, hlogs⟩
    rw [setUpLog_of_some_logFile hcolor hlogFile hpath, ← hadded]
    dsimp only
    split
    · exact installed_log _ _
    · rfl

/-- Without handlers that stay, the console alone is ready. -/
theorem installed_readied (hstay : s.preserve = false) :
    (w.readied color s).installed = [.console color.layers] := by
  rw [readied_of_not_preserve hstay, installed, logsTo_onConsole]
  rfl

/-- Handlers that stay come first. -/
theorem installed_prefix_withConsole (w : World) :
    w.installed <+: (w.withConsole true).installed := by
  rw [withConsole, if_pos rfl]
  split
  · exact List.prefix_rfl
  · rw [installed_addHandler]
    exact List.prefix_append _ _

theorem installed_prefix_readied (hstay : s.preserve = true) :
    w.installed <+: (w.readied color s).installed := by
  rw [readied, hstay]
  exact installed_prefix_withConsole
    { w with color := color, level := if s.verbose then debugLevel else infoLevel }

/-- Settings stay once the world is ready. -/
theorem lasting_sameSettings (w : World) : Lasting (SameSettings w) where
  opened _ _ _ h := ⟨h.environment, h.color, h.level⟩
  added _ h := ⟨h.environment, h.color, h.level⟩
  logged _ _ _ h := h.trans (sameSettings_log _ _)

/-- **The level after set-up** is that of the settings. -/
theorem level_setUpLog (hcolor : w.color.force w.environment s.forceColor = .ok color) :
    (w.setUpLog s).1.level = if s.verbose then debugLevel else infoLevel := by
  have hkept := (lasting_sameSettings (w.readied color s)).setUpLog hcolor (.refl _)
  obtain ⟨handlers, hready⟩ := exists_withConsole_eq
    { w with color := color, level := if s.verbose then debugLevel else infoLevel } s.preserve
  rw [hkept.level, readied, hready]

/-! ## Set-up once more -/

/-- **Set-up** without handlers that stay keeps what the log file keeps, from when it is opened. -/
theorem kept_setUpLog {K : FileTree → Prop}
    (hcolor : w.color.force w.environment s.forceColor = .ok color) (hstay : s.preserve = false)
    (hfile : s.logFile = some path) (hpath : path ≠ "") {t : FileTree}
    {made : Except FileFault FileLog}
    (hstart : FileLog.start w.files path s.maxBytes s.backups = (t, made)) (ht : K t)
    (hlog : ∀ l, made = .ok l → s.verbose = true → l.Keeps K) : K (w.setUpLog s).1.files := by
  cases hverbose : s.verbose with
  | false =>
    rw [files_setUpLog_of_info hcolor hstay hverbose hfile hpath, hstart]
    exact ht
  | true =>
    have hconsole : ∀ h ∈ (w.readied color s).installed, ∀ l, h.sink = .file l → l.Keeps K := by
      rw [installed_readied hstay, List.forall_mem_singleton]
      intro l hl
      contradiction
    have hadded : ((w.readied color s).addLogFile path s).1.Keeping K := by
      rw [addLogFile, files_readied, hstart]
      cases made with
      | ok l =>
        refine Keeping.log ⟨ht, ?_⟩ _
        rw [installed_addHandler, List.forall_mem_append, List.forall_mem_singleton]
        refine ⟨hconsole, fun l' hl' => ?_⟩
        obtain rfl : l.closed = l' := Sink.file.inj hl'
        exact .of_closed (l := l) rfl (hlog l rfl hverbose)
      | error e =>
        cases e with
        | badPath => exact ⟨ht, hconsole⟩
        | refused f =>
          exact Keeping.log (w := { w.readied color s with files := t }) ⟨ht, hconsole⟩ _
    rw [setUpLog_of_some_logFile hcolor hfile hpath]
    dsimp only
    split
    · exact (hadded.log _).files
    · exact hadded.files

/-- The path of the log file leads through the place of one of its backups, other than the last. If
details are logged, the file may be moved aside while the log is set up, and what is in that place
is moved on. -/
def LogSettings.LeadsThroughBackup (s : LogSettings) (t : FileTree) : Prop :=
  s.verbose = true ∧ 0 < s.maxBytes ∧ ∃ n : Nat, (n : Int) + 2 ≤ s.backups ∧
    ((s.fileLog t).backup (n + 1)).place ∈ (Path.ofText (s.logFile.getD "")).way

/-- **The log file can be opened again** after set-up just if it could be opened before. -/
theorem opens_again (hcolor : w.color.force w.environment s.forceColor = .ok color)
    (hstay : s.preserve = false) (hbackup : ¬ s.LeadsThroughBackup w.files) :
    s.Opens (w.setUpLog s).1.files ↔ s.Opens w.files := by
  by_cases hfile : s.logFile.getD "" = ""
  · exact ⟨fun hopen => absurd hfile hopen.1, fun hopen => absurd hfile hopen.1⟩
  obtain ⟨path, hlogFile, hpath⟩ := exists_logFile_of_ne hfile
  rw [opens_iff hlogFile hpath, opens_iff hlogFile hpath]
  have hbase := (sameRoots_setUpLog hcolor).base
  cases hstart : FileLog.start w.files path s.maxBytes s.backups with
  | mk t made =>
    cases made with
    | ok l =>
      refine ⟨fun _ => ⟨t, l, rfl⟩, fun _ => ?_⟩
      have hapart : s.verbose = true → l.Apart (FileLog.wayTo path) := by
        intro hverbose
        refine FileLog.apart_of_start hstart fun hlimit n hn hmem =>
          hbackup ⟨hverbose, hlimit, n, hn, ?_⟩
        rw [← closed_of_start hlogFile hstart, hlogFile]
        exact hmem
      have hreachable : l.Reachable (FileLog.wayTo path) (w.setUpLog s).1.files := by
        refine kept_setUpLog hcolor hstay hlogFile hpath hstart (FileLog.reachable_of_start hstart)
          fun l' hl' hverbose => ?_
        obtain rfl := Except.ok.inj hl'
        exact (hapart hverbose).keeps
      obtain ⟨t', l', hstart', -⟩ := FileLog.start_of_reachable hstart hbase hreachable
      exact ⟨t', l', hstart'⟩
    | error e =>
      have hfiles : (w.setUpLog s).1.files = t :=
        kept_setUpLog (K := (· = t)) hcolor hstay hlogFile hpath hstart rfl (by simp)
      obtain ⟨t', e', hstart'⟩ := FileLog.start_failed hstart
      rw [hfiles, hstart']
      simp

/-- **Set-up after any history** of the log, with a wish for colours that is not refused. The level
is that of the settings. Without handlers that stay there is the handler of the console on standard
error as it is now, and behind it that of the log file if and only if one is asked for and it can be
opened; and set-up once more leaves the same, unless the path of the log file leads through one of
its backups. Handlers that stay all come first, in their order. A log file that the file system
refuses makes no difference to handlers and level. -/
theorem setUpLog_resets (w : World) {s : LogSettings} (haccepted : ¬ s.IsRefused) :
    let w' := (w.setUpLog s).1
    let again := (w'.setUpLog s).1
    let unfiled := (w.setUpLog { s with logFile := none }).1
    w'.level = (if s.verbose then debugLevel else infoLevel) ∧
    (s.preserve = false → ∃ logs, s.Adds w.files logs ∧
      w'.installed = .console w'.color.layers :: logs ∧
      (¬ s.LeadsThroughBackup w.files →
        again.installed = .console again.color.layers :: logs ∧ again.level = w'.level)) ∧
    (s.preserve = true → w.installed <+: w'.installed) ∧
    (∀ path f, s.logFile = some path → path ≠ "" →
      (FileLog.start w.files path s.maxBytes s.backups).2 = .error (.refused f) →
      (w.setUpLog s).2 = none ∧ w'.installed = unfiled.installed ∧ w'.level = unfiled.level) := by
  intro w' again unfiled
  obtain ⟨color, hcolor⟩ := exists_force_of_not_refused (w := w) haccepted
  obtain ⟨logs, hinstalled, hlogs⟩ := installed_setUpLog hcolor
  have hlevel := level_setUpLog hcolor
  refine ⟨hlevel, fun hstay => ⟨logs, hlogs, ?_, fun hbackup => ?_⟩, fun hstay => ?_, ?_⟩
  · rw [hinstalled, installed_readied hstay, ← color_setUpLog hcolor]
    rfl
  · obtain ⟨color₂, hcolor₂⟩ := exists_force_of_not_refused (w := w') haccepted
    obtain ⟨logs₂, hinstalled₂, hlogs₂⟩ := installed_setUpLog hcolor₂
    have hopens := opens_again hcolor hstay hbackup
    have hfileLog : s.fileLog w'.files = s.fileLog w.files := by
      rw [LogSettings.fileLog, (sameRoots_setUpLog hcolor).base]
      rfl
    have hsame : logs₂ = logs := by
      by_cases hopen : s.Opens w.files
      · rw [hlogs.1 hopen, hlogs₂.1 (hopens.mpr hopen), hfileLog]
      · rw [hlogs.2 hopen, hlogs₂.2 (mt hopens.mp hopen)]
    refine ⟨?_, (level_setUpLog hcolor₂).trans hlevel.symm⟩
    rw [hinstalled₂, installed_readied hstay, ← color_setUpLog hcolor₂, hsame]
    rfl
  · rw [hinstalled]
    exact (installed_prefix_readied hstay).trans (List.prefix_append _ _)
  · intro path f hfile hpath hrefused
    have hclosed : ¬ s.Opens w.files := by
      intro hopen
      obtain ⟨t, l, hstart⟩ := (opens_iff hfile hpath).mp hopen
      rw [hstart] at hrefused
      contradiction
    have hfault : (w.setUpLog s).2 = none := by
      refine fault_setUpLog hcolor fun path' hfile' => ?_
      obtain rfl : path = path' := Option.some.inj (hfile.symm.trans hfile')
      rw [hrefused]
      simp
    have hlevel' := level_setUpLog (s := { s with logFile := none }) hcolor
    obtain ⟨logs', hinstalled', hlogs'⟩ :=
      installed_setUpLog (s := { s with logFile := none }) hcolor
    have hnone : ¬ LogSettings.Opens { s with logFile := none } w.files := fun hopen => hopen.1 rfl
    refine ⟨hfault, ?_, hlevel.trans hlevel'.symm⟩
    rw [hinstalled, hinstalled', hlogs.2 hclosed, hlogs'.2 hnone]
    rfl

/-- A handler of a caller, set-up with colours, and a warning. -/
def earlierSteps : List LogStep :=
  [.addStream .stdout (some .console),
    .setUp { LogSettings.standard with
      verbose := true, forceColor := .bool true, preserve := true },
    .log (.ofText warningLevel "app" "boom")]

/-- Two set-ups with details, in a log file that is moved aside meanwhile; and one that keeps the
handlers, with a log file below a file, which is no directory. -/
theorem setUpLog_resets_twice :
    let w := ((start .bare (.empty "/home")).run earlierSteps).1
    let s := { LogSettings.standard with
      verbose := true, logFile := some "logs/app.log", maxBytes := 100, backups := 2 }
    let again := ((w.setUpLog s).1.setUpLog s).1
    let filed := { w with files := w.files.install (Path.ofText "app.log") [] }
    let below := { LogSettings.standard with logFile := some "app.log/x", preserve := true }
    (again.installed = [.console again.color.layers, .logFile (s.fileLog w.files)] ∧
      again.level = debugLevel) ∧
    filed.installed <+: (filed.setUpLog below).1.installed ∧ (filed.setUpLog below).2 = none := by
  intro w s again filed below
  obtain ⟨hlevel, hreset, -, -⟩ := setUpLog_resets w (s := s) fun h => h.1 rfl
  obtain ⟨logs, hlogs, -, hagain⟩ := hreset rfl
  have hopens : s.Opens w.files := ⟨by decide, by decide +kernel, by decide +kernel⟩
  have hbackup : ¬ s.LeadsThroughBackup w.files := by
    rintro ⟨-, -, n, hn, hmem⟩
    obtain rfl : n = 0 := by
      have hbackups : (n : Int) + 2 ≤ 2 := hn
      omega
    revert hmem
    decide +kernel
  obtain ⟨hinstalled, hsame⟩ := hagain hbackup
  obtain ⟨-, -, hkept, hrefused⟩ := setUpLog_resets filed (s := below) fun h => h.1 rfl
  obtain ⟨f, hf⟩ := FileFault.exists_refused (x :=
      (FileLog.start filed.files "app.log/x" below.maxBytes below.backups).2)
    (FileLog.start_ne_badPath (by decide) (by decide +kernel) _ _) (by decide +kernel)
  refine ⟨⟨?_, hsame.trans hlevel⟩, hkept rfl, (hrefused _ f rfl (by decide) hf).1⟩
  rw [hinstalled, hlogs.1 hopens]

/-- Details in `app.log`, the path of which leads through the place of its first backup. -/
def detouring : LogSettings :=
  { LogSettings.standard with
    verbose := true, logFile := some "app.log.1/../app.log", maxBytes := 200, backups := 2 }

/-- A path that leads through a backup: the first set-up makes the directory `app.log.1`, opens
`app.log`, and at once moves it aside, as it is nearly full; the directory becomes the second backup
and the file the first. The second set-up finds a file where its path leads on, and does without the
log file. -/
theorem setUpLog_detouring :
    let w := start .bare
      ((FileTree.empty "/home").install (Path.ofText "app.log") (List.replicate 150 120))
    let first := w.setUpLog detouring
    let second := first.1.setUpLog detouring
    detouring.preserve = false ∧ first.2 = none ∧ second.2 = none ∧
      first.1.handlers.length = 2 ∧ second.1.handlers.length = 1 := by
  decide +kernel

end World

end PropertyFilter
