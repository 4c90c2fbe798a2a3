import PropertyFilter.Proofs.Log.Sharing
import PropertyFilter.Proofs.Value.Sameness

/-!
# Lines of the log

In the standard layout a line shows the time, the level, the logger and the message of a record. The
template is filled from left to right: its own characters stay, and each placeholder looks up its
field.

## Main definitions

* `Template.Fills`: what a template makes of the fields that it is filled with
* `standardLine`, `consoleLine`: the lines of texts, without and with colours

## Main results

* `Template.fill_standard`: the standard template, filled
* `Layout.render_plain`, `Layout.render_console`: the lines of texts in log files and on the console
-/

namespace PropertyFilter

open Terminal (ColorState)

namespace Template

variable {values : List Value} {entries : List (Value × Value)} {key rest cs : List Char}
  {s : String} {a : Pending}

/-- A key without parentheses ends at the first closing one. -/
theorem takeKey_of_plain (h : ∀ c ∈ key, c ≠ '(' ∧ c ≠ ')') :
    takeKey 0 (key ++ ')' :: rest) = some (key, rest) := by
  induction key with
  | nil => simp [takeKey]
  | cons c key ih =>
    rw [List.forall_mem_cons] at h
    simp [takeKey, h.1.1, h.1.2, ih h.2]

theorem layOut_text (s : String) : layOut .plain 's' (.text s) = .ok s.toList := by
  simp [layOut, layOutText, Placeholder.place, Placeholder.plain]

/-- A placeholder with a key stands for the text under the key. -/
theorem fillOne_field (hkey : ∀ c ∈ key, c ≠ '(' ∧ c ≠ ')')
    (hfind : Entries.findText? entries (String.ofList key) = some (.text s)) :
    fillOne ⟨values, some entries⟩ ('(' :: (key ++ ')' :: 's' :: rest)) =
      .ok (s.toList, ⟨[], some entries⟩, rest) := by
  simp [fillOne, readKey, takeKey_of_plain hkey, hfind, readFlags, Placeholder.flag?, readExtent,
    readPrecision, skipLength, Placeholder.withWidth, Pending.next, layOut_text, Bind.bind,
    Except.bind, pure, Except.pure]

/-- A template, filled with what is pending, makes a text; any fuel will do that is more than its
length. -/
def Fills (a : Pending) (template out : List Char) : Prop :=
  ∀ fuel, template.length < fuel → fillFrom fuel a template = .ok out

theorem fills_nil : Fills ⟨values, some entries⟩ [] [] := by
  intro fuel hfuel
  cases fuel with
  | zero => contradiction
  | succ fuel => simp [fillFrom]

/-- A character that is no percent sign stays. -/
theorem Fills.char (h : Fills a rest cs) {c : Char} (hc : c ≠ '%') :
    Fills a (c :: rest) (c :: cs) := by
  intro fuel hfuel
  rw [List.length_cons] at hfuel
  cases fuel with
  | zero => contradiction
  | succ fuel =>
    have hrest := h fuel (by omega)
    simp [fillFrom, hc, hrest, Bind.bind, Except.bind, pure, Except.pure]

/-- Two percent signs stand for one. -/
theorem Fills.percent (h : Fills a rest cs) : Fills a ('%' :: '%' :: rest) ('%' :: cs) := by
  intro fuel hfuel
  simp only [List.length_cons] at hfuel
  cases fuel with
  | zero => contradiction
  | succ fuel =>
    have hrest := h fuel (by omega)
    simp [fillFrom, hrest, Bind.bind, Except.bind, pure, Except.pure]

/-- A placeholder with a key looks up its field. -/
theorem Fills.field (h : Fills ⟨[], some entries⟩ rest cs) (values : List Value) (key : List Char)
    (hkey : ∀ c ∈ key, c ≠ '(' ∧ c ≠ ')')
    (hfind : Entries.findText? entries (String.ofList key) = some (.text s)) :
    Fills ⟨values, some entries⟩ ('%' :: '(' :: (key ++ ')' :: 's' :: rest))
      (s.toList ++ cs) := by
  intro fuel hfuel
  simp only [List.length_cons, List.length_append] at hfuel
  cases fuel with
  | zero => contradiction
  | succ fuel =>
    have hrest := h fuel (by omega)
    simp [fillFrom, fillOne_field hkey hfind, hrest, Bind.bind, Except.bind, pure, Except.pure]

end Template

/-! ## The standard template -/

/-- The line of a message, given the name of its level and of its logger. -/
def standardLine (level logger message : String) : String :=
  "1970-01-01 00:00:00" ++ " [" ++ level ++ "] " ++ logger ++ ": " ++ message

theorem stamp_standardTimePattern :
    stamp Layout.standardTimePattern = "1970-01-01 00:00:00" := by
  decide

namespace Template

variable {entries : List (Value × Value)} {m : Value} {time level logger message : String}

/-- **The standard template, filled.** -/
theorem fill_standard
    (htime : Entries.findText? entries "asctime" = some (.text time))
    (hlevel : Entries.findText? entries "levelname" = some (.text level))
    (hlogger : Entries.findText? entries "name" = some (.text logger))
    (hmessage : Entries.findText? entries "message" = some (.text message)) :
    fill Layout.standardTemplate (.keyed m entries) =
      .ok (time ++ " [" ++ level ++ "] " ++ logger ++ ": " ++ message) := by
  have hfourth := (@fills_nil [] entries).field [] ['m', 'e', 's', 's', 'a', 'g', 'e'] (by simp)
    hmessage
  have hthird := ((hfourth.char (c := ' ') (by simp)).char (c := ':') (by simp)).field []
    ['n', 'a', 'm', 'e'] (by simp) hlogger
  have hsecond := ((hthird.char (c := ' ') (by simp)).char (c := ']') (by simp)).field []
    ['l', 'e', 'v', 'e', 'l', 'n', 'a', 'm', 'e'] (by simp) hlevel
  have hfirst := ((hsecond.char (c := '[') (by simp)).char (c := ' ') (by simp)).field [m]
    ['a', 's', 'c', 't', 'i', 'm', 'e'] (by simp) htime
  have hfill := hfirst _ (Nat.lt_succ_self _)
  rw [fill]
  refine (congrArg (Except.map String.ofList) hfill).trans ?_
  rw [Except.map, Except.ok.injEq, ← String.toList_inj]
  simp

end Template

namespace Layout

variable {l : Layout}

/-- The standard template shows four of the fields of a line. -/
theorem line_of_standardTemplate (hl : l.template = standardTemplate) (s : SharedRecord)
    (message : String) :
    l.line s message =
      .ok (l.time ++ " [" ++ s.levelName ++ "] " ++ s.record.logger ++ ": " ++ message) := by
  rw [line, hl, Template.fill_standard]
  all_goals simp [fields, Entries.findText?, Entries.find?_cons]

/-- Lines in the standard template do not show whether the text of an exception has been made. -/
theorem hidesTrace_of_standardTemplate (hl : l.template = standardTemplate) : l.HidesTrace := by
  intro s message
  rw [line_of_standardTemplate hl, line_of_standardTemplate hl]

/-- A line in the standard layout. -/
theorem line_standard (hl : l.template = standardTemplate)
    (htime : l.timePattern = some standardTimePattern) (s : SharedRecord) (message : String) :
    l.line s message = .ok (standardLine s.levelName s.record.logger message) := by
  have hshown : l.time = stamp standardTimePattern := by
    rw [time, htime]
  rw [line_of_standardTemplate hl, hshown, stamp_standardTimePattern]
  rfl

/-- A text, laid out as it stands in the standard layout. -/
theorem formatPlain_standard (hl : l.template = standardTemplate)
    (htime : l.timePattern = some standardTimePattern) (level : Int) (name logger text : String) :
    (l.formatPlain ⟨.ofText level logger text, name, none, none⟩).2 =
      .ok (standardLine name logger text) := by
  simp only [formatPlain, Record.text, Record.ofText, List.isEmpty_nil, if_true, Value.plain,
    line_standard hl htime]
  rfl

/-- **The line of a text in a log file.** -/
theorem render_plain (color : ColorState) (level : Int) (logger text : String) :
    plain.render color (.ofText level logger text) =
      .ok (standardLine (levelName level) logger text) :=
  formatPlain_standard rfl rfl level _ logger text

end Layout

/-- The line of a text on the console: the level and the message are coloured. -/
def consoleLine (color : ColorState) (level : Int) (logger text : String) : String :=
  let (code, bright) := Layout.levelStyle level
  standardLine (color.colored bright code (levelName level)) logger (color.colored false code text)

/-- **The line of a text on the console.** -/
theorem Layout.render_console (color : ColorState) (level : Int) (logger text : String) :
    console.render color (.ofText level logger text) =
      .ok (consoleLine color level logger text) := by
  have hplain := formatPlain_standard (l := console) rfl rfl level
  unfold render format consoleLine
  cases hon : color.isOn with
  | true => exact hplain _ logger (color.colored false (levelStyle level).1 text)
  | false =>
    simp only [Terminal.ColorState.colored_off hon]
    exact hplain _ logger text

end PropertyFilter
