import PropertyFilter.Log.History
import PropertyFilter.Proofs.Log.Console
import PropertyFilter.Proofs.Terminal.Decisions

/-!
# Records that are repeated

When the log is set up and handlers stay, a handler of the console is added unless one is there. One
that was added before another deleting layer has been put around the streams does not count, though
it goes on writing. So there is one handler for each number of layers since the first set-up, and a
record appears on standard error as often.

## Main definitions

* `arriving`: what arrives of a line through deleting layers
* `World.TakesWhole`: a record is logged without a failure
* `World.OnePerLayer w first`: the handlers on streams are those of the console, one for each number
  of layers from `first` on
* `layersAfter e settings`: the number of layers after set-ups

## Main results

* `World.handleAll_streams`: what handlers of the console do with a record
* `World.onePerLayer_setUpLog`: setting up the log keeps one handler for each number of layers
* `World.stderr_log_setUps`: what is written of a record after any set-ups
-/

namespace PropertyFilter

open Terminal (Environment ColorState ColorStep ColorSupport)

/-- What arrives of a line through deleting layers. -/
def arriving (line : String) (layers : Nat) : List Char :=
  (Terminal.deliver layers (line ++ "\n").toList).arrived

namespace Handler

/-- A handler that writes to an output stream. -/
def isStream (h : Handler) : Bool :=
  match h.sink with
  | .stream _ _ => true
  | _ => false

/-- The log file behind a handler, if there is one, is open. -/
def isOpen (h : Handler) : Bool :=
  match h.sink with
  | .file l => l.stream.isSome
  | _ => true

end Handler

namespace World

variable {w : World} {h : Handler} {s : SharedRecord} {r : Record} {ns : List Nat} {line : String}

/-! ## Handlers on streams -/

/-- A record is logged without a failure, which would be reported on standard error as well: it has
a line, no layer fails on that, and all log files are open afterwards. -/
structure TakesWhole (w : World) (r : Record) (l : Layout) (ns : List Nat) (line : String) :
    Prop where
  render : l.render w.color r = .ok line
  whole : ∀ n ∈ ns, (Terminal.deliver n (line ++ "\n").toList).fault = none
  isOpen : ∀ h ∈ (w.log r).handlers, h.isOpen = true

/-- A handler that does not write to a stream leaves both as they are. -/
theorem accept_of_not_stream (hstream : h.isStream = false) (text : Except Fault String) :
    (w.accept h text).1.stdout = w.stdout ∧ (w.accept h text).1.stderr = w.stderr ∧
      (w.accept h text).2.isStream = false := by
  unfold accept
  split
  · next hsink => simp [Handler.isStream, hsink] at hstream
  · exact ⟨rfl, rfl, rfl⟩
  · exact ⟨rfl, rfl, hstream⟩

/-- A handler of the console stays, and writes to standard error if there is a text. -/
theorem accept_console (w : World) (n : Nat) (text : Except Fault String) :
    (w.accept (.console n) text).1.stdout = w.stdout ∧
      (w.accept (.console n) text).2 = .console n ∧
      ∀ line, text = .ok line →
        (w.accept (.console n) text).1.stderr = w.stderr ++ arriving line n := by
  cases text with
  | ok line => exact ⟨rfl, rfl, fun _ hline => Except.ok.inj hline ▸ rfl⟩
  | error e => exact ⟨rfl, rfl, fun _ hline => by contradiction⟩

/-- The handlers on streams are those of the console, set up behind some numbers of layers. -/
def HasConsoles (w : World) (ns : List Nat) : Prop :=
  w.handlers.filter Handler.isStream = ns.map .console

/-- **Handlers of the console** each write a record to standard error; others do not matter. -/
theorem handleAll_streams (hs : s.IsFor r) {handlers : List Handler}
    (hconsoles : handlers.filter Handler.isStream = ns.map .console) :
    (w.handleAll s handlers).1.stdout = w.stdout ∧
      (w.handleAll s handlers).2.filter Handler.isStream = ns.map .console ∧
      ∀ line, Layout.console.render w.color r = .ok line →
        (w.handleAll s handlers).1.stderr = w.stderr ++ ns.flatMap (arriving line) := by
  -- by induction on the handlers; a handler on a stream takes the first of the numbers with it
  induction handlers generalizing w s ns with
  | nil =>
    obtain rfl : ns = [] := List.map_eq_nil_iff.mp hconsoles.symm
    exact ⟨rfl, rfl, fun _ _ => (List.append_nil _).symm⟩
  | cons h handlers ih =>
    obtain ⟨s', hs', hhandle⟩ := exists_handle_eq hs w h
    rw [handleAll, hhandle]
    generalize htext : ((h.layout.getD .bare).format w.color s).2 = text
    have hcolor : (w.accept h text).1.color = w.color := (sameSettings_accept w h text).color
    cases hstream : h.isStream with
    | false =>
      rw [List.filter_cons_of_neg (by simp [hstream])] at hconsoles
      obtain ⟨hstdout, hstderr, hstay⟩ := accept_of_not_stream (w := w) hstream text
      obtain ⟨hrest, hrestConsoles, hrestStderr⟩ := ih (w := (w.accept h text).1) hs' hconsoles
      rw [hcolor, hstderr] at hrestStderr
      refine ⟨hrest.trans hstdout, ?_, hrestStderr⟩
      rw [List.filter_cons_of_neg (by simp [hstay])]
      exact hrestConsoles
    | true =>
      rw [List.filter_cons_of_pos hstream] at hconsoles
      obtain ⟨n, ns', rfl, rfl, hconsoles'⟩ := List.map_eq_cons_iff.mp hconsoles.symm
      obtain ⟨hstdout, hstay, hstderr⟩ := accept_console w n text
      obtain ⟨hrest, hrestConsoles, hrestStderr⟩ := ih (w := (w.accept (.console n) text).1) hs'
        hconsoles'.symm
      rw [hcolor] at hrestStderr
      refine ⟨hrest.trans hstdout, ?_, fun line hline => ?_⟩
      · rw [hstay, List.filter_cons_of_pos rfl, hrestConsoles, List.map_cons]
      · have hshown : text = .ok line := by
          rw [← htext, ← hline]
          exact Layout.format_of_isFor hs (.inl (Layout.hidesTrace_of_standardTemplate rfl)) w.color
        rw [hrestStderr line hline, hstderr line hshown, List.flatMap_cons, List.append_assoc]

/-- Logging a record leaves the handlers of the console. -/
theorem hasConsoles_log (hw : w.HasConsoles ns) (r : Record) : (w.log r).HasConsoles ns := by
  rw [log_eq]
  split
  · exact hw
  split
  · rw [lastResort_eq]
    split
    · rw [HasConsoles, receive, handlers_accept]
      exact hw
    · exact hw
  · exact (handleAll_streams (SharedRecord.isFor_ofRecord r) hw).2.1

/-- **Logging a record** where there are handlers of the console. -/
theorem log_of_hasConsoles (hw : w.HasConsoles ns) (hns : ns ≠ []) (hlevel : w.level ≤ r.level)
    (hpos : 0 < r.level) :
    (w.log r).stdout = w.stdout ∧ ∀ line, w.TakesWhole r .console ns line →
      (w.log r).stderr = w.stderr ++ ns.flatMap (arriving line) := by
  have htaken : ¬ (r.level < w.level ∨ r.level ≤ 0) := by omega
  have hhandlers : w.handlers ≠ [] := by
    intro hnone
    rw [HasConsoles, hnone] at hw
    exact hns (List.map_eq_nil_iff.mp hw.symm)
  obtain ⟨hstdout, -, hstderr⟩ := handleAll_streams (SharedRecord.isFor_ofRecord r) hw
  refine ⟨?_, fun line hline => ?_⟩
  · rw [log_eq, if_neg htaken, if_neg hhandlers]
    exact hstdout
  · have hwritten := hstderr line hline.render
    rw [log_eq, if_neg htaken, if_neg hhandlers]
    exact hwritten

/-- **Logging a warning** where there is no handler. -/
theorem log_of_no_handlers (hw : w.handlers = []) (hlevel : w.level ≤ r.level) (hpos : 0 < r.level)
    (hwarning : warningLevel ≤ r.level) :
    (w.log r).stdout = w.stdout ∧ ∀ line, w.TakesWhole r .bare [w.color.layers] line →
      (w.log r).stderr = w.stderr ++ arriving line w.color.layers := by
  have htaken : ¬ (r.level < w.level ∨ r.level ≤ 0) := by omega
  have hlog : w.log r = (w.receive ⟨.stream .stderr w.color.layers, none⟩ r).1 := by
    rw [log_eq, if_neg htaken, if_pos hw, lastResort_eq, if_pos hwarning]
  have hbare : Option.getD none Layout.bare = .bare := rfl
  rw [hlog, receive, hbare]
  refine ⟨?_, fun line hline => ?_⟩
  · cases Layout.bare.render w.color r <;> rfl
  · rw [hline.render]
    rfl

/-! ## Set-up with handlers that stay -/

variable {s : LogSettings} {color : ColorState}

/-- A handler counts as one of the console if it is behind the present layers. -/
theorem any_isConsole_iff (hw : w.HasConsoles ns) :
    w.handlers.any w.isConsole = true ↔ w.color.layers ∈ ns := by
  have hstream : ∀ h, (h.isStream && w.isConsole h) = w.isConsole h := by
    intro h
    unfold isConsole Handler.isStream
    cases h.sink <;> rfl
  have hany : w.handlers.any w.isConsole = (ns.map Handler.console).any w.isConsole := by
    rw [← show w.handlers.filter Handler.isStream = _ from hw, List.any_filter]
    simp only [hstream]
  rw [hany, List.any_map, List.any_eq_true]
  constructor
  · rintro ⟨n, hn, hconsole⟩
    obtain rfl : n = w.color.layers := beq_iff_eq.mp hconsole
    exact hn
  · intro hn
    exact ⟨_, hn, beq_self_eq_true w.color.layers⟩

theorem hasConsoles_addHandler (hw : w.HasConsoles ns) (hstream : h.isStream = false) :
    (w.addHandler h).HasConsoles ns := by
  rw [HasConsoles, addHandler, List.filter_append, show w.handlers.filter _ = _ from hw,
    List.filter_cons_of_neg (by simp [hstream]), List.filter_nil, List.append_nil]

/-- A handler of the console is added unless one is there behind the present layers. -/
theorem hasConsoles_readied (hw : w.HasConsoles ns) (hstay : s.preserve = true) :
    (w.readied color s).HasConsoles (if color.layers ∈ ns then ns else ns ++ [color.layers]) := by
  rw [readied, withConsole, hstay, if_pos rfl]
  generalize hdecided : ({ w with color := color, level := _ } : World) = decided
  have hcolor : decided.color = color := hdecided ▸ rfl
  have hconsoles : decided.HasConsoles ns := hdecided ▸ hw
  have hany := any_isConsole_iff hconsoles
  rw [hcolor] at hany
  by_cases hthere : color.layers ∈ ns
  · rw [if_pos hthere, if_pos (hany.mpr hthere)]
    exact hconsoles
  · rw [if_neg hthere, if_neg (fun h => hthere (hany.mp h)), HasConsoles, addHandler,
      List.filter_append, show decided.handlers.filter _ = _ from hconsoles, List.map_append,
      streamHandler, hcolor]
    rfl

/-- The handlers of the console stay once the world is ready. -/
theorem lasting_hasConsoles (ns : List Nat) : Lasting (HasConsoles · ns) where
  opened _ _ _ h := h
  added _ h := hasConsoles_addHandler h rfl
  logged _ _ _ h := hasConsoles_log h _

/-- **Setting up the log** once colours have been decided, with handlers that stay. -/
theorem hasConsoles_setUpLog (hw : w.HasConsoles ns) (hstay : s.preserve = true)
    (hcolor : w.color.force w.environment s.forceColor = .ok color) :
    (w.setUpLog s).1.HasConsoles (if color.layers ∈ ns then ns else ns ++ [color.layers]) :=
  (lasting_hasConsoles _).setUpLog hcolor (hasConsoles_readied hw hstay)

/-! ## Colours, set-up after set-up -/

/-- Colour support in a world. -/
def support (w : World) : ColorSupport := ⟨w.environment, w.color⟩

theorem support_log (w : World) (r : Record) : (w.log r).support = w.support := by
  have hsettings := sameSettings_log w r
  rw [support, support, hsettings.environment, hsettings.color]

theorem support_readied (w : World) (color : ColorState) (s : LogSettings) :
    (w.readied color s).support = ⟨w.environment, color⟩ := by
  obtain ⟨handlers, hconsole⟩ := exists_withConsole_eq
    { w with color := color, level := if s.verbose then debugLevel else infoLevel } s.preserve
  rw [readied, hconsole]
  rfl

/-- Colours are not decided again once the world is ready. -/
theorem lasting_support (c : ColorSupport) : Lasting fun w => w.support = c where
  opened _ _ _ h := h
  added _ h := h
  logged _ _ _ h := (support_log _ _).trans h

theorem take_force (hcolor : w.color.force w.environment s.forceColor = .ok color) :
    (w.support.take (.force s.forceColor)).1 = ⟨w.environment, color⟩ := by
  rw [support, ColorSupport.take, hcolor]

/-- **Setting up the log** does to colours what forcing them does. -/
theorem support_setUpLog (w : World) (s : LogSettings) :
    (w.setUpLog s).1.support = (w.support.take (.force s.forceColor)).1 := by
  cases hcolor : w.color.force w.environment s.forceColor with
  | error e =>
    have htake : (w.support.take (.force s.forceColor)).1 = w.support := by
      rw [support, ColorSupport.take, hcolor]
    rw [htake, setUpLog, hcolor]
  | ok color =>
    rw [take_force hcolor]
    exact (lasting_support _).setUpLog hcolor (support_readied w color s)

/-- The wishes for colours of set-ups, as steps of colour support. -/
def wishes (settings : List LogSettings) : List ColorStep :=
  settings.map fun s => .force s.forceColor

/-- **Any set-ups** do to colours what forcing them one after the other does. -/
theorem support_run (w : World) (settings : List LogSettings) :
    (w.run (settings.map .setUp)).1.support = w.support.run (wishes settings) := by
  induction settings generalizing w with
  | nil => rfl
  | cons s settings ih =>
    rw [List.map_cons, run_cons]
    exact (ih (w.setUpLog s).1).trans (congrArg (ColorSupport.run · (wishes settings))
      (support_setUpLog w s))

/-- The number of layers after set-ups, from the start in an environment. -/
def layersAfter (e : Environment) (settings : List LogSettings) : Nat :=
  ((ColorSupport.start e).run (wishes settings)).state.layers

theorem layers_run_start (e : Environment) (t : FileTree) (settings : List LogSettings) :
    ((start e t).run (settings.map .setUp)).1.color.layers = layersAfter e settings :=
  congrArg (fun c => c.state.layers) (support_run (start e t) settings)

theorem run_wishes_append (e : Environment) (before later : List LogSettings) :
    (ColorSupport.start e).run (wishes (before ++ later)) =
      ((ColorSupport.start e).run (wishes before)).run (wishes later) := by
  rw [wishes, List.map_append]
  exact ColorSupport.run_append _ _ _

/-- Set-ups put no layer around the streams unless one of them turns colours off. -/
theorem layersAfter_append_eq_iff (e : Environment) (before later : List LogSettings) :
    layersAfter e (before ++ later) = layersAfter e before ↔
      ∀ middle s rest, later = middle ++ s :: rest →
        ¬ ((ColorSupport.start e).run (wishes (before ++ middle))).TurnsOff
          (.force s.forceColor) := by
  have hsound := ColorSupport.sound_run e (wishes before)
  rw [layersAfter, layersAfter, run_wishes_append, ColorSupport.layers_run_eq_iff hsound]
  constructor
  · rintro hon middle s rest rfl
    rw [run_wishes_append]
    exact hon (wishes middle) (.force s.forceColor) (wishes rest) (by simp [wishes])
  · intro hon done step rest hsplit
    obtain ⟨middle, later', rfl, rfl, hlater⟩ := List.map_eq_append_iff.mp hsplit
    obtain ⟨s, rest', rfl, rfl, rfl⟩ := List.map_eq_cons_iff.mp hlater
    have hstep := hon middle s rest' rfl
    rw [run_wishes_append] at hstep
    exact hstep

/-! ## One handler for each number of layers -/

/-- The handlers on streams are those of the console, one for each number of layers from `first`
on. -/
structure OnePerLayer (w : World) (first : Nat) : Prop where
  le : first ≤ w.color.layers
  consoles : w.HasConsoles (List.range' first (w.color.layers + 1 - first))

/-- Forcing colours puts one layer around the streams, or none. -/
theorem layers_force {c c' : ColorState} {e : Environment} {wish : Value}
    (h : c.force e wish = .ok c') : c'.layers = c.layers ∨ c'.layers = c.layers + 1 := by
  unfold ColorState.force at h
  split at h
  · contradiction
  · obtain rfl := Except.ok.inj h
    split
    · exact .inl rfl
    · unfold ColorState.decide
      dsimp only
      split
      · exact .inl rfl
      · exact .inr rfl

/-- A set-up that is refused, as its wish for colours is neither nothing nor the same as a truth
value. -/
def LogSettings.IsRefused (s : LogSettings) : Prop :=
  s.forceColor ≠ .null ∧ s.forceColor.same (.bool true) = false ∧
    s.forceColor.same (.bool false) = false

theorem setUpLog_of_refused (h : s.IsRefused) : (w.setUpLog s).1 = w := by
  have htarget := ColorState.target?_eq_none_iff (e := w.environment).mpr h
  rw [setUpLog, ColorState.force, htarget]

theorem exists_force_of_not_refused (h : ¬ s.IsRefused) :
    ∃ color, w.color.force w.environment s.forceColor = .ok color := by
  cases htarget : ColorState.target? w.environment s.forceColor with
  | none => exact absurd (ColorState.target?_eq_none_iff.mp htarget) h
  | some t =>
    rw [ColorState.force, htarget]
    exact ⟨_, rfl⟩

theorem color_setUpLog (hcolor : w.color.force w.environment s.forceColor = .ok color) :
    (w.setUpLog s).1.color = color :=
  congrArg ColorSupport.state ((support_setUpLog w s).trans (take_force hcolor))

/-- **The first set-up** adds a handler of the console. -/
theorem onePerLayer_of_first (hw : w.handlers = []) (hstay : s.preserve = true)
    (haccepted : ¬ s.IsRefused) :
    (w.setUpLog s).1.OnePerLayer (w.setUpLog s).1.color.layers := by
  obtain ⟨color, hcolor⟩ := exists_force_of_not_refused (w := w) haccepted
  have hnone : w.HasConsoles [] := by
    rw [HasConsoles, hw]
    rfl
  have hconsoles := hasConsoles_setUpLog hnone hstay hcolor
  refine ⟨Nat.le_refl _, ?_⟩
  rw [color_setUpLog hcolor, Nat.add_sub_cancel_left]
  simpa using hconsoles

/-- **Every other set-up** keeps one handler for each number of layers. -/
theorem onePerLayer_setUpLog {first : Nat} (hw : w.OnePerLayer first) (hstay : s.preserve = true) :
    (w.setUpLog s).1.OnePerLayer first := by
  by_cases hrefused : s.IsRefused
  · rw [setUpLog_of_refused hrefused]
    exact hw
  · obtain ⟨color, hcolor⟩ := exists_force_of_not_refused (w := w) hrefused
    have hconsoles := hasConsoles_setUpLog hw.consoles hstay hcolor
    have hle := hw.le
    rcases layers_force hcolor with hsame | hmore
    · have hthere : color.layers ∈ List.range' first (w.color.layers + 1 - first) := by
        rw [List.mem_range'_1]
        omega
      rw [if_pos hthere] at hconsoles
      refine ⟨?_, ?_⟩ <;> rw [color_setUpLog hcolor, hsame]
      · exact hle
      · exact hconsoles
    · have hnew : color.layers ∉ List.range' first (w.color.layers + 1 - first) := by
        rw [List.mem_range'_1]
        omega
      have hcount : w.color.layers + 1 + 1 - first = w.color.layers + 1 - first + 1 := by omega
      have hlast : first + (w.color.layers + 1 - first) = w.color.layers + 1 := by omega
      rw [if_neg hnew, hmore] at hconsoles
      refine ⟨?_, ?_⟩ <;> rw [color_setUpLog hcolor, hmore]
      · omega
      · rw [hcount, List.range'_1_concat, hlast]
        exact hconsoles

/-- **Any set-ups** keep one handler for each number of layers. -/
theorem onePerLayer_run {first : Nat} {settings : List LogSettings} (hw : w.OnePerLayer first)
    (hstay : ∀ s ∈ settings, s.preserve = true) :
    (w.run (settings.map .setUp)).1.OnePerLayer first := by
  induction settings generalizing w with
  | nil => exact hw
  | cons s settings ih =>
    rw [List.forall_mem_cons] at hstay
    rw [List.map_cons, run_cons]
    exact ih (onePerLayer_setUpLog hw hstay.1) hstay.2

theorem run_of_refused {settings : List LogSettings} (h : ∀ s ∈ settings, s.IsRefused) :
    (w.run (settings.map .setUp)).1 = w := by
  induction settings generalizing w with
  | nil => rfl
  | cons s settings ih =>
    rw [List.forall_mem_cons] at h
    rw [List.map_cons, run_cons]
    exact (ih h.2).trans (setUpLog_of_refused h.1)

/-- After any set-ups there is one handler for each number of layers since the first that has not
been refused. -/
theorem onePerLayer_run_start (e : Environment) (t : FileTree) {before later : List LogSettings}
    (hrefused : ∀ s' ∈ before, s'.IsRefused) (haccepted : ¬ s.IsRefused)
    (hstay : ∀ s' ∈ before ++ s :: later, s'.preserve = true) :
    ((start e t).run ((before ++ s :: later).map .setUp)).1.OnePerLayer
      (layersAfter e (before ++ [s])) := by
  rw [List.forall_mem_append, List.forall_mem_cons] at hstay
  have hfirst : ((start e t).run ((before ++ [s]).map .setUp)).1 = ((start e t).setUpLog s).1 := by
    rw [List.map_append, fst_run_append, run_of_refused hrefused]
    rfl
  have hconsole : ((start e t).setUpLog s).1.OnePerLayer (layersAfter e (before ++ [s])) := by
    rw [← layers_run_start e t, hfirst]
    exact onePerLayer_of_first rfl hstay.2.1 haccepted
  rw [List.append_cons, List.map_append, fst_run_append, hfirst]
  exact onePerLayer_run hconsole hstay.2.2

/-- Set-ups are all refused, or there is a first that is not. -/
theorem refused_or_split (settings : List LogSettings) :
    (∀ s ∈ settings, s.IsRefused) ∨ ∃ before s later, settings = before ++ s :: later ∧
      (∀ s' ∈ before, s'.IsRefused) ∧ ¬ s.IsRefused := by
  induction settings with
  | nil => exact .inl (List.forall_mem_nil _)
  | cons s settings ih =>
    by_cases hs : s.IsRefused
    · rcases ih with hrefused | ⟨before, s', later, rfl, hrefused, haccepted⟩
      · exact .inl (List.forall_mem_cons.mpr ⟨hs, hrefused⟩)
      · exact .inr ⟨s :: before, s', later, rfl, List.forall_mem_cons.mpr ⟨hs, hrefused⟩, haccepted⟩
    · exact .inr ⟨[], s, settings, rfl, List.forall_mem_nil _, hs⟩

/-! ## What is written of a record -/

/-- **Logging a record** where there is one handler for each number of layers. -/
theorem log_of_onePerLayer {first : Nat} (hw : w.OnePerLayer first) (hlevel : w.level ≤ r.level)
    (hpos : 0 < r.level) :
    let ns := List.range' first (w.color.layers - first + 1)
    (w.log r).stdout = w.stdout ∧ ∀ line, w.TakesWhole r .console ns line →
      (w.log r).stderr = w.stderr ++ ns.flatMap (arriving line) := by
  have hconsoles := hw.consoles
  rw [Nat.sub_add_comm hw.le] at hconsoles
  exact log_of_hasConsoles hconsoles (by simp) hlevel hpos

/-- **What is written of a record** after any set-ups that let handlers stay, starting without any.
If all of them have been refused, the bare message of a warning is written once. Otherwise a record
is written as often as there have been different numbers of layers since the first set-up that was
not refused, each time through so many layers. That is once if no later set-up has turned colours
off, and more often if one has. Where a handler fails on the record, a report is written as well. -/
theorem stderr_log_setUps (e : Environment) (t : FileTree) {settings : List LogSettings}
    (hstay : ∀ s ∈ settings, s.preserve = true) {r : Record}
    (hlevel : ((start e t).run (settings.map .setUp)).1.level ≤ r.level) (hpos : 0 < r.level) :
    let w := ((start e t).run (settings.map .setUp)).1
    (w.log r).stdout = w.stdout ∧
      ((∀ s ∈ settings, s.IsRefused) → ∀ line, w.TakesWhole r .bare [w.color.layers] line →
        (w.log r).stderr = w.stderr ++ arriving line w.color.layers) ∧
      (∀ before s later, settings = before ++ s :: later → (∀ s' ∈ before, s'.IsRefused) →
        ¬ s.IsRefused →
          let first := layersAfter e (before ++ [s])
          let ns := List.range' first (layersAfter e settings - first + 1)
          first ≤ layersAfter e settings ∧
            (∀ line, w.TakesWhole r .console ns line →
              (w.log r).stderr = w.stderr ++ ns.flatMap (arriving line)) ∧
            (layersAfter e settings = first ↔ ∀ middle s' rest, later = middle ++ s' :: rest →
              ¬ ((ColorSupport.start e).run (wishes (before ++ s :: middle))).TurnsOff
                (.force s'.forceColor))) := by
  intro w
  have hnone : (∀ s ∈ settings, s.IsRefused) → (w.log r).stdout = w.stdout ∧
      ∀ line, w.TakesWhole r .bare [w.color.layers] line →
        (w.log r).stderr = w.stderr ++ arriving line w.color.layers := by
    intro hrefused
    have hw : w = start e t := run_of_refused hrefused
    have hwarning : warningLevel ≤ r.level := by
      rw [run_of_refused hrefused] at hlevel
      exact hlevel
    exact log_of_no_handlers (hw ▸ rfl) hlevel hpos hwarning
  have hsome : ∀ before s later, settings = before ++ s :: later → (∀ s' ∈ before, s'.IsRefused) →
      ¬ s.IsRefused → w.OnePerLayer (layersAfter e (before ++ [s])) := by
    rintro before s later rfl hrefused haccepted
    exact onePerLayer_run_start e t hrefused haccepted hstay
  refine ⟨?_, fun hrefused => (hnone hrefused).2, ?_⟩
  · rcases refused_or_split settings with hrefused | ⟨before, s, later, hsplit, hrefused, haccepted⟩
    · exact (hnone hrefused).1
    · exact (log_of_onePerLayer (hsome before s later hsplit hrefused haccepted) hlevel hpos).1
  · intro before s later hsplit hrefused haccepted
    have hw := hsome before s later hsplit hrefused haccepted
    have hle := hw.le
    obtain ⟨-, hstderr⟩ := log_of_onePerLayer hw hlevel hpos
    have hafter : w.color.layers = layersAfter e settings := layers_run_start e t settings
    rw [hafter] at hle hstderr
    have hlayers := layersAfter_append_eq_iff e (before ++ [s]) later
    simp only [List.append_assoc, List.singleton_append, ← hsplit] at hlayers
    exact ⟨hle, hstderr, hlayers⟩

/-- Two set-ups that let handlers stay: the first forces colours on, and the second forces them
off. -/
def onThenOff : List LogSettings :=
  [{ LogSettings.standard with forceColor := .bool true, preserve := true },
    { LogSettings.standard with forceColor := .bool false, preserve := true }]

/-- A warning after colours have been turned off is written twice. -/
theorem stderr_log_setUps_twice :
    let w := ((start .bare (.empty "/home")).run (onThenOff.map .setUp)).1
    (w.log (.ofText warningLevel "app" "x")).stdout = [] ∧
      (w.log (.ofText warningLevel "app" "x")).stderr =
        ("1970-01-01 00:00:00 [WARNING] app: x\n" ++
          "1970-01-01 00:00:00 [WARNING] app: x\n").toList := by
  intro w
  have hstay : ∀ s ∈ onThenOff, s.preserve = true := by simp [onThenOff]
  have hlevel : w.level ≤ (Record.ofText warningLevel "app" "x").level := by decide +kernel
  have haccepted : ¬ LogSettings.IsRefused
      { LogSettings.standard with forceColor := .bool true, preserve := true } := by
    rintro ⟨-, hdifferent, -⟩
    exact Bool.noConfusion (hdifferent.symm.trans (Value.same_bool_self true))
  obtain ⟨hstdout, -, hwritten⟩ := stderr_log_setUps .bare (.empty "/home") hstay hlevel
    (by decide)
  obtain ⟨-, hstderr, -⟩ := hwritten [] _ _ rfl (List.forall_mem_nil _) haccepted
  refine ⟨hstdout.trans (by decide +kernel), ?_⟩
  have hwhole := hstderr "1970-01-01 00:00:00 [WARNING] app: x"
    ⟨by decide +kernel, by decide +kernel, by decide +kernel⟩
  exact hwhole.trans (by decide +kernel)

end World

end PropertyFilter
