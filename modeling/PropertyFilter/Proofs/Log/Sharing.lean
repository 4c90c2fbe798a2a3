import PropertyFilter.Log.World

/-!
# Sharing a record

All handlers get one and the same record in turn, and a coloured layout writes style codes into it.
As it puts back what it has overwritten, on every way out, each handler does what it would do if it
were the first to get the record. There is one exception: the text of an exception stays in the
record once a layout has made it, and a template may show whether it is there.

## Main definitions

* `SharedRecord.IsFor s r`: `s` is the record `r`, as layouts leave it
* `Layout.HidesTrace`: lines do not show whether the text of an exception has been made
* `World.receive`, `World.receiveAll`: what handlers do with a record, each as if it were the first
* `World.SameSettings w w'`: the surroundings, colours and the level are the same

## Main results

* `Layout.format_left`: a layout leaves a record as it was
* `Layout.format_of_isFor`: the text that a layout has for a record is that of a new record
* `World.handleAll_eq_receiveAll`: handlers that share a record do not notice each other
* `World.log_eq`, `World.log_eq_receiveAll`: what logging a record does
* `World.sameSettings_log`: logging a record changes no settings
-/

namespace PropertyFilter

open Terminal (ColorState)

namespace SharedRecord

variable {s : SharedRecord} {r : Record}

/-- If there is a text of the exception, it is the one that layouts make. -/
def HasOwnTrace (s : SharedRecord) : Prop :=
  s.exceptionText = none ∨ ∃ e ∈ s.record.exception, s.exceptionText = some e.trace

theorem HasOwnTrace.traced (h : s.HasOwnTrace) : s.traced.HasOwnTrace := by
  unfold SharedRecord.traced
  split
  · next e he =>
    split
    · exact .inr ⟨e, he, rfl⟩
    · exact h
  · exact h

/-- Whether the text of the exception has been made before does not matter behind a line. -/
theorem HasOwnTrace.attachments_eq (h : s.HasOwnTrace) :
    s.attachments = attachments { s with exceptionText := none } := by
  have htext : s.traced.exceptionText =
      (SharedRecord.traced { s with exceptionText := none }).exceptionText := by
    unfold SharedRecord.traced
    dsimp only
    rcases h with h | ⟨e, he, h⟩
    · cases s.record.exception with
      | none => exact h
      | some e => simp [h]
    · rw [Option.mem_def.mp he, h]
      dsimp only
      split <;> simp [h]
  rw [attachments, attachments, htext]

/-- A shared record is the record that was logged; the texts of its message and of its exception may
be left in it. -/
structure IsFor (s : SharedRecord) (r : Record) : Prop where
  record : s.record = r
  levelName : s.levelName = PropertyFilter.levelName r.level
  trace : s.HasOwnTrace

theorem isFor_ofRecord (r : Record) : (ofRecord r).IsFor r := ⟨rfl, rfl, .inl rfl⟩

/-- Without an exception there is no text of one. -/
theorem IsFor.exceptionText_eq_none (hs : s.IsFor r) (hr : r.exception = none) :
    s.exceptionText = none := by
  rcases hs.trace with h | ⟨e, he, -⟩
  · exact h
  · rw [hs.record, hr] at he
    contradiction

end SharedRecord

namespace Layout

variable {l : Layout} {s : SharedRecord} {r : Record}

/-- Lines do not show whether the text of an exception has been made. -/
def HidesTrace (l : Layout) : Prop :=
  ∀ s message, l.line s message = l.line { s with exceptionText := none } message

/-- Laying a record out as it stands leaves nothing in it but texts. -/
theorem formatPlain_left (l : Layout) (s : SharedRecord) :
    (l.formatPlain s).1.record = s.record ∧ (l.formatPlain s).1.levelName = s.levelName := by
  unfold formatPlain
  split
  · exact ⟨rfl, rfl⟩
  dsimp only
  split
  · exact ⟨rfl, rfl⟩
  · unfold SharedRecord.traced
    dsimp only
    split
    · split <;> exact ⟨rfl, rfl⟩
    · exact ⟨rfl, rfl⟩

theorem hasOwnTrace_formatPlain (hs : s.HasOwnTrace) : (l.formatPlain s).1.HasOwnTrace := by
  unfold formatPlain
  split
  · exact hs
  dsimp only
  split
  · exact hs
  · exact SharedRecord.HasOwnTrace.traced hs

/-- The text of the message is made anew, whatever text was there before, and so might be that of
the exception. -/
theorem formatPlain_text (hs : s.HasOwnTrace)
    (hline : ∀ message, l.line s message = l.line { s with exceptionText := none } message) :
    (l.formatPlain s).2 = (l.formatPlain { s with text := none, exceptionText := none }).2 := by
  unfold formatPlain
  dsimp only
  cases s.record.text with
  | error e => rfl
  | ok message =>
    have hmade : l.line { s with text := some message } message =
        l.line { s with text := some message, exceptionText := none } message := hline message
    have hattached : SharedRecord.attachments { s with text := some message } =
        SharedRecord.attachments { s with text := some message, exceptionText := none } :=
      SharedRecord.HasOwnTrace.attachments_eq (s := { s with text := some message }) hs
    dsimp only
    rw [hmade]
    split
    · rfl
    · rw [SharedRecord.attached, SharedRecord.attached, hattached]

/-- A painted record is the record again with its own message in place of the painted one. -/
theorem paint_restored (color : ColorState) (r : Record) :
    { paint color r with message := r.message } = r := by
  unfold paint
  split <;> rfl

theorem exception_paint (color : ColorState) (r : Record) :
    (paint color r).exception = r.exception := by
  unfold paint
  split <;> rfl

theorem stack_paint (color : ColorState) (r : Record) : (paint color r).stack = r.stack := by
  unfold paint
  split <;> rfl

/-- **A layout leaves a record as it was**, also where it has no text for it. -/
theorem format_left (l : Layout) (color : ColorState) (s : SharedRecord) :
    (l.format color s).1.record = s.record ∧ (l.format color s).1.levelName = s.levelName := by
  unfold format
  split
  · refine ⟨?_, rfl⟩
    simp only [(formatPlain_left l _).1]
    exact paint_restored color _
  · exact formatPlain_left l s

theorem hasOwnTrace_format (hs : s.HasOwnTrace) (color : ColorState) :
    (l.format color s).1.HasOwnTrace := by
  unfold format
  split
  · have hpainted : SharedRecord.HasOwnTrace
        ⟨paint color s.record, color.colored (levelStyle s.record.level).2
          (levelStyle s.record.level).1 s.levelName, s.text, s.exceptionText⟩ := by
      rw [SharedRecord.HasOwnTrace, exception_paint]
      exact hs
    exact hasOwnTrace_formatPlain (l := l) hpainted
  · exact hasOwnTrace_formatPlain hs

/-- A layout passes a record on as it was. -/
theorem isFor_format (hs : s.IsFor r) (l : Layout) (color : ColorState) :
    (l.format color s).1.IsFor r := by
  obtain ⟨hleft, hname⟩ := l.format_left color s
  exact ⟨hleft.trans hs.record, hname.trans hs.levelName, hasOwnTrace_format hs.trace color⟩

/-- The text that a layout has for a record is that of a record which no layout has written into. -/
theorem format_of_isFor (hs : s.IsFor r) (hl : l.HidesTrace ∨ r.exception = none)
    (color : ColorState) : (l.format color s).2 = l.render color r := by
  have hline : ∀ t : SharedRecord, t.exceptionText = s.exceptionText → ∀ message,
      l.line t message = l.line { t with exceptionText := none } message := by
    intro t ht message
    rcases hl with hl | hr
    · exact hl t message
    · rw [hs.exceptionText_eq_none hr] at ht
      rw [← ht]
  have hfresh : ∀ t : SharedRecord, t.exceptionText = s.exceptionText →
      t.record.exception = r.exception →
        (l.formatPlain t).2 = (l.formatPlain { t with text := none, exceptionText := none }).2 := by
    intro t ht hexception
    refine formatPlain_text ?_ (hline t ht)
    rw [SharedRecord.HasOwnTrace, ht, hexception, ← hs.record]
    exact hs.trace
  obtain ⟨hrecord, hlevelName, -⟩ := hs
  obtain ⟨_, _, text, trace⟩ := s
  simp only at hrecord hlevelName
  subst hrecord hlevelName
  unfold render format
  split
  · exact hfresh ⟨paint color _, _, text, trace⟩ rfl (exception_paint color _)
  · exact hfresh ⟨_, levelName _, text, trace⟩ rfl rfl

end Layout

namespace World

variable {w : World} {h : Handler} {s : SharedRecord} {r : Record}

/-- What a handler does with a record that no layout has written into. -/
def receive (w : World) (h : Handler) (r : Record) : World × Handler :=
  w.accept h ((h.layout.getD .bare).render w.color r)

/-- What handlers do with a record, each as if it were the first to get it. -/
def receiveAll (w : World) (r : Record) : List Handler → World × List Handler
  | [] => (w, [])
  | h :: hs =>
    let (w, h) := w.receive h r
    let (w, hs) := receiveAll w r hs
    (w, h :: hs)

/-- A handler takes the text that its layout has for a record. -/
theorem handle_eq (w : World) (h : Handler) (s : SharedRecord) :
    ∃ s', (s' = s ∨ s' = ((h.layout.getD .bare).format w.color s).1) ∧
      w.handle h s = ((w.accept h ((h.layout.getD .bare).format w.color s).2).1,
        (w.accept h ((h.layout.getD .bare).format w.color s).2).2, s') := by
  unfold handle
  split
  · next hsink =>
    refine ⟨s, .inl rfl, ?_⟩
    unfold accept
    rw [hsink]
  · exact ⟨_, .inr rfl, rfl⟩

/-- A handler passes a record on as it was. -/
theorem exists_handle_eq (hs : s.IsFor r) (w : World) (h : Handler) :
    ∃ s', s'.IsFor r ∧
      w.handle h s = ((w.accept h ((h.layout.getD .bare).format w.color s).2).1,
        (w.accept h ((h.layout.getD .bare).format w.color s).2).2, s') := by
  obtain ⟨s', hs', hhandle⟩ := handle_eq w h s
  refine ⟨s', ?_, hhandle⟩
  rcases hs' with rfl | rfl
  · exact hs
  · exact Layout.isFor_format hs _ w.color

/-- **One handler** does not notice what layouts have left in a record. -/
theorem handle_of_isFor (hs : s.IsFor r) (w : World)
    (hh : (h.layout.getD .bare).HidesTrace ∨ r.exception = none) :
    ∃ s', s'.IsFor r ∧ w.handle h s = ((w.receive h r).1, (w.receive h r).2, s') := by
  obtain ⟨s', hs', hhandle⟩ := exists_handle_eq hs w h
  rw [Layout.format_of_isFor hs hh] at hhandle
  exact ⟨s', hs', hhandle⟩

/-- **Handlers that share a record do not notice each other**, if there is no exception with it. -/
theorem handleAll_eq_receiveAll (hs : s.IsFor r) (hr : r.exception = none) (w : World)
    (handlers : List Handler) : w.handleAll s handlers = w.receiveAll r handlers := by
  induction handlers generalizing w s with
  | nil => rfl
  | cons h handlers ih =>
    obtain ⟨s', hs', hhandle⟩ := handle_of_isFor hs w (.inr hr)
    rw [handleAll, hhandle]
    simp only [ih hs', receiveAll]

/-- Logging a record hands it to all handlers, or to standard error where there are none. -/
theorem log_eq (w : World) (r : Record) :
    w.log r = if r.level < w.level ∨ r.level ≤ 0 then w
      else if w.handlers = [] then w.lastResort r
      else { (w.handleAll (.ofRecord r) w.handlers).1 with
        handlers := (w.handleAll (.ofRecord r) w.handlers).2 } := by
  unfold log
  by_cases hpassed : r.level < w.level ∨ r.level ≤ 0
  · rw [if_pos hpassed, if_pos (by simpa using hpassed)]
  · rw [if_neg hpassed, if_neg (by simpa using hpassed)]
    cases hhandlers : w.handlers with
    | nil => rfl
    | cons h hs => rw [if_neg (List.cons_ne_nil h hs)]

/-- Logging a record without an exception, each handler by itself. -/
theorem log_eq_receiveAll (hr : r.exception = none) (w : World) :
    w.log r = if r.level < w.level ∨ r.level ≤ 0 then w
      else if w.handlers = [] then w.lastResort r
      else { (w.receiveAll r w.handlers).1 with handlers := (w.receiveAll r w.handlers).2 } := by
  rw [log_eq, handleAll_eq_receiveAll (SharedRecord.isFor_ofRecord r) hr]

/-- The last resort for a warning is a handler like any other. -/
theorem lastResort_eq (w : World) (r : Record) :
    w.lastResort r =
      if warningLevel ≤ r.level then (w.receive ⟨.stream .stderr w.color.layers, none⟩ r).1
      else w := rfl

/-! ## What logging leaves as it is -/

/-- The surroundings, colours and the level are the same in two worlds. -/
structure SameSettings (w w' : World) : Prop where
  environment : w'.environment = w.environment
  color : w'.color = w.color
  level : w'.level = w.level

namespace SameSettings

theorem refl (w : World) : SameSettings w w := ⟨rfl, rfl, rfl⟩

theorem trans {w w' w'' : World} (h : SameSettings w w') (h' : SameSettings w' w'') :
    SameSettings w w'' :=
  ⟨h'.environment.trans h.environment, h'.color.trans h.color, h'.level.trans h.level⟩

end SameSettings

theorem files_send (w : World) (c : Channel) (layers : Nat) (cs : List Char) :
    (w.send c layers cs).files = w.files := by
  cases c <;> rfl

theorem sameSettings_send (w : World) (c : Channel) (layers : Nat) (cs : List Char) :
    SameSettings w (w.send c layers cs) := by
  cases c <;> exact ⟨rfl, rfl, rfl⟩

/-- What handlers do keeps `K` if taking a text does. -/
theorem handleAll_keeps {K : World → Prop} (haccept : ∀ w h text, K w → K (w.accept h text).1)
    (hw : K w) (s : SharedRecord) (hs : List Handler) : K (w.handleAll s hs).1 := by
  induction hs generalizing w s with
  | nil => exact hw
  | cons h hs ih =>
    obtain ⟨s', -, hhandle⟩ := handle_eq w h s
    rw [handleAll, hhandle]
    exact ih (haccept w h _ hw) s'

theorem sameSettings_accept (w : World) (h : Handler) (text : Except Fault String) :
    SameSettings w (w.accept h text).1 := by
  unfold accept
  split
  · exact sameSettings_send w _ _ _
  · exact ⟨rfl, rfl, rfl⟩
  · exact .refl w

theorem handlers_accept (w : World) (h : Handler) (text : Except Fault String) :
    (w.accept h text).1.handlers = w.handlers := by
  unfold accept
  split
  · next c _ _ _ => cases c <;> rfl
  · rfl
  · rfl

theorem sameSettings_handleAll (w : World) (s : SharedRecord) (hs : List Handler) :
    SameSettings w (w.handleAll s hs).1 :=
  handleAll_keeps (fun w' h text hw' => hw'.trans (sameSettings_accept w' h text)) (.refl w) s hs

/-- **Logging a record** changes no settings. -/
theorem sameSettings_log (w : World) (r : Record) : SameSettings w (w.log r) := by
  rw [log_eq]
  split
  · exact .refl w
  split
  · rw [lastResort_eq]
    split
    · exact sameSettings_accept w _ _
    · exact .refl w
  · have hall := sameSettings_handleAll w (.ofRecord r) w.handlers
    exact ⟨hall.environment, hall.color, hall.level⟩

end World

end PropertyFilter
