import PropertyFilter.Proofs.Log.Filling
import PropertyFilter.Proofs.Log.Lines
import PropertyFilter.Proofs.Log.Sharing
import PropertyFilter.Proofs.Log.Twins

/-!
# Layouts with colours and without

A coloured layout puts style codes into a record before it makes a line of it, around the template
of the message, and takes them out again. Still there is a line with colours just if there is one
without, and the two differ in style codes only, as long as nothing in the line takes part in a
sequence itself. Behind the line stands what goes with the record, in lines of its own: a line that
ends in a line break gets no other one, but with a style code behind its line break it does.

## Main definitions

* `SharedRecord.unattached`: a record without what stands behind its line
* `LineField`, `Piece`: the fields that plain templates of lines refer to, and their pieces
* `IsPlainTemplate t`: a template made of literal text and of references to fields

## Main results

* `Record.text_paint`: the text of a painted message
* `Layout.line_of_pieces`: a plain template always makes a line
* `Layout.alongside_format`: lines with colours and without
* `SharedRecord.deliver_attached_iff`: lines with what stands behind them
* `Layout.format_adds_colors`: a coloured layout adds style codes, and nothing else
-/

namespace PropertyFilter

open Terminal (ColorState Inert Tinted)

/-! ## Painted messages -/

theorem isClosing_reset : Template.IsClosing Terminal.reset.toList :=
  ⟨⟨['[', '0', 'm'], by decide⟩, by decide, by decide⟩

theorem percent_notMem_levelStyle (level : Int) : '%' ∉ (Layout.levelStyle level).1.toList := by
  unfold Layout.levelStyle
  repeat' split
  all_goals decide

/-- **The text of a painted message** is the text of the message, between style codes or as it is,
or there is no text for either. -/
theorem Record.text_paint (color : ColorState) (r : Record) :
    Alongside (fun m m' => m' = m ∨ m' = Terminal.styled false (Layout.levelStyle r.level).1 m)
      r.text (Layout.paint color r).text := by
  have hunpainted : ∀ r' : Record, r' = r → Alongside
      (fun m m' => m' = m ∨ m' = Terminal.styled false (Layout.levelStyle r.level).1 m)
      r.text r'.text := by
    rintro _ rfl
    exact .same _ fun _ _ => .inl rfl
  cases hmessage : r.message with
  | text s =>
    have hpaint : Layout.paint color r =
        { r with message := .text (color.colored false (Layout.levelStyle r.level).1 s) } := by
      simp only [Layout.paint, hmessage]
    rw [hpaint, Terminal.ColorState.colored]
    split
    · have hstyled : ∀ m, Terminal.styled false (Layout.levelStyle r.level).1 m =
          (Layout.levelStyle r.level).1 ++ m ++ Terminal.reset := by
        simp [Terminal.styled]
      unfold text
      simp only [hmessage, Value.plain_text]
      split
      · exact .ok (.inr rfl)
      · rw [hstyled]
        have hfill := Template.fill_between (percent_notMem_levelStyle r.level) isClosing_reset s
          r.fillers
        refine hfill.mono fun m m' hm => .inr ?_
        rw [hm, hstyled]
    · exact hunpainted _ (by rw [← hmessage])
  | _ => exact hunpainted _ (by simp only [Layout.paint, hmessage])

/-! ## Behind the line -/

namespace SharedRecord

variable {s : SharedRecord} {t : String} {texts : List String}

/-- The record without what stands behind its line. -/
def unattached (s : SharedRecord) : SharedRecord :=
  { s with record := { s.record with exception := none, stack := none }, exceptionText := none }

/-- What stands behind a line depends on the exception and the stack only. -/
theorem attached_congr {s' : SharedRecord} (hexception : s'.record.exception = s.record.exception)
    (hstack : s'.record.stack = s.record.stack) (htext : s'.exceptionText = s.exceptionText) :
    s'.attached = s.attached := by
  have htraced : s'.traced.exceptionText = s.traced.exceptionText := by
    unfold traced
    rw [hexception, htext]
    split
    · split <;> simp [htext]
    · exact htext
  funext line
  rw [attached, attached, attachments, attachments, htraced, hstack]

/-- What stands between a line and the first text behind it. -/
def gap (line : String) : String := if endsLine line then "" else "\n"

theorem gap_inj {line line' : String} : gap line = gap line' ↔ endsLine line = endsLine line' := by
  unfold gap
  cases endsLine line <;> cases endsLine line' <;> simp

theorem attach_eq (line more : String) : attach line more = line ++ gap line ++ more := by
  unfold attach gap
  split
  · rw [String.append_empty]
  · rfl

theorem attach_ne_empty (h : t ≠ "") (line : String) : attach line t ≠ "" := by
  rw [attach_eq]
  simp [h]

/-- A text that stands behind a line decides where the next one begins. -/
theorem gap_append (h : t ≠ "") (line : String) : gap (line ++ t) = gap t := by
  rw [gap_inj, endsLine, endsLine, String.toList_append, List.getLast?_append_of_ne_nil]
  simpa using h

theorem foldl_attach_append (h : t ≠ "") (line : String) (hall : ∀ u ∈ texts, u ≠ "") :
    texts.foldl attach (line ++ t) = line ++ texts.foldl attach t := by
  induction texts generalizing t with
  | nil => rfl
  | cons u texts ih =>
    rw [List.forall_mem_cons] at hall
    have hfirst : attach (line ++ t) u = line ++ attach t u := by
      rw [attach_eq, attach_eq, gap_append h]
      simp only [String.append_assoc]
    rw [List.foldl_cons, List.foldl_cons, hfirst]
    exact ih (attach_ne_empty hall.1 t) hall.2

theorem ne_empty_of_mem_attachments (h : t ∈ s.attachments) : t ≠ "" := by
  simpa using (List.mem_filter.mp h).2

/-- What stands behind a line is the same for every line, but for a line break in front. -/
theorem attached_of_cons (h : s.attachments = t :: texts) (line : String) :
    s.attached line = line ++ gap line ++ texts.foldl attach t := by
  have hall : ∀ u ∈ t :: texts, u ≠ "" := fun u hu => ne_empty_of_mem_attachments (h ▸ hu)
  rw [List.forall_mem_cons] at hall
  rw [attached, h, List.foldl_cons, attach_eq, foldl_attach_append hall.1 _ hall.2]

theorem inert_foldl_attach (ht : TextOver Inert t) (hall : ∀ u ∈ texts, TextOver Inert u) :
    TextOver Inert (texts.foldl attach t) := by
  induction texts generalizing t with
  | nil => exact ht
  | cons u texts ih =>
    rw [List.forall_mem_cons] at hall
    refine ih ?_ hall.2
    rw [attach_eq, gap]
    refine (ht.append ?_).append hall.1
    split <;> decide

/-- **Lines with what stands behind them**, with style codes and without: deleting the sequences
leaves the same just if the same line breaks stand between. -/
theorem deliver_attached_iff {coloured plain : String}
    (htinted : Tinted coloured.toList plain.toList)
    (hinert : ∀ t ∈ s.attachments, TextOver Inert t) :
    Terminal.deliver 1 (s.attached coloured).toList = ⟨(s.attached plain).toList, none⟩ ↔
      s.attachments = [] ∨ endsLine coloured = endsLine plain := by
  cases hattachments : s.attachments with
  | nil =>
    rw [attached, attached, hattachments]
    exact iff_of_true htinted.deliver_one (.inl rfl)
  | cons t texts =>
    rw [hattachments, List.forall_mem_cons] at hinert
    have hgap : TextOver Inert (gap coloured) := by
      unfold gap
      split <;> decide
    have hdelivered : Terminal.deliver 1
        (coloured ++ gap coloured ++ texts.foldl attach t).toList =
          ⟨(plain ++ gap coloured ++ texts.foldl attach t).toList, none⟩ := by
      have hline := (htinted.append (.of_inert hgap)).append
        (.of_inert (inert_foldl_attach hinert.1 hinert.2))
      simp only [← String.toList_append] at hline
      exact hline.deliver_one
    rw [attached_of_cons hattachments, attached_of_cons hattachments, hdelivered]
    simp [← gap_inj, String.toList_inj]

end SharedRecord

/-! ## Plain templates -/

/-- The fields that plain templates of lines refer to. -/
inductive LineField where
  | time
  | level
  | logger
  | message
  deriving DecidableEq, Repr

/-- The key of a field. -/
def LineField.key : LineField → String
  | time => "asctime"
  | level => "levelname"
  | logger => "name"
  | message => "message"

/-- A piece of a plain template: a character of its own, or a reference to a field. -/
inductive Piece where
  | literal (c : Char)
  | field (f : LineField)
  deriving DecidableEq, Repr

namespace Piece

/-- How a piece is written; a percent sign of the template's own is doubled. -/
def spelled : Piece → List Char
  | literal c => if c = '%' then ['%', '%'] else [c]
  | field f => '%' :: '(' :: (f.key.toList ++ [')', 's'])

/-- What a piece shows. -/
def shown (value : LineField → String) : Piece → List Char
  | literal c => [c]
  | field f => (value f).toList

end Piece

/-- A template is plain if it is made of inert text and of references to fields. -/
def IsPlainTemplate (t : String) : Prop :=
  ∃ pieces : List Piece, t.toList = pieces.flatMap Piece.spelled ∧
    ∀ c, .literal c ∈ pieces → Inert c

namespace Template

variable {entries : List (Value × Value)} {value : LineField → String}

/-- A plain template makes the text of its pieces. -/
theorem fills_pieces (hfind : ∀ f : LineField,
      Entries.findText? entries f.key = some (.text (value f)))
    (pieces : List Piece) (values : List Value) :
    Fills ⟨values, some entries⟩ (pieces.flatMap Piece.spelled)
      (pieces.flatMap (Piece.shown value)) := by
  induction pieces generalizing values with
  | nil => exact fills_nil
  | cons piece pieces ih =>
    rw [List.flatMap_cons, List.flatMap_cons]
    cases piece with
    | literal c =>
      have hspelled : (Piece.literal c).spelled = if c = '%' then ['%', '%'] else [c] := rfl
      rw [hspelled]
      split
      · next hc =>
        subst hc
        exact (ih values).percent
      · next hc => exact (ih values).char hc
    | field f =>
      have hkey : ∀ c ∈ f.key.toList, c ≠ '(' ∧ c ≠ ')' := by
        cases f <;> simp [LineField.key]
      have hfield := (ih []).field values f.key.toList hkey (by
        rw [String.ofList_toList]
        exact hfind f)
      simpa [Piece.spelled, Piece.shown] using hfield

end Template

namespace Layout

variable {l : Layout} {on off : ColorState}

/-- The values of the fields that plain templates refer to. -/
def fieldValue (l : Layout) (logger level message : String) : LineField → String
  | .time => l.time
  | .level => level
  | .logger => logger
  | .message => message

theorem findText?_fields (l : Layout) (s : SharedRecord) (message : String) (f : LineField) :
    Entries.findText? (l.fields s message) f.key =
      some (.text (l.fieldValue s.record.logger s.levelName message f)) := by
  cases f <;>
    simp [Layout.fields, LineField.key, fieldValue, Entries.findText?, Entries.find?_cons]

/-- **A plain template always makes a line**: that of its pieces. -/
theorem line_of_pieces {pieces : List Piece} (hl : l.template.toList = pieces.flatMap Piece.spelled)
    (s : SharedRecord) (message : String) :
    l.line s message = .ok (String.ofList
      (pieces.flatMap (Piece.shown (l.fieldValue s.record.logger s.levelName message)))) := by
  have hfills := Template.fills_pieces (l.findText?_fields s message) pieces
    [.mapping none false (l.fields s message)]
  have hfill := hfills _ (Nat.lt_succ_self _)
  rw [← hl] at hfill
  simp only [line, Template.fill, Template.Pending.ofArguments]
  rw [hfill]
  rfl

/-- Pieces show texts with style codes where the values of fields have some. -/
theorem tinted_shown {value value' : LineField → String}
    (hvalue : ∀ f, Tinted (value f).toList (value' f).toList) {pieces : List Piece}
    (hpieces : ∀ c, .literal c ∈ pieces → Inert c) :
    Tinted (pieces.flatMap (Piece.shown value)) (pieces.flatMap (Piece.shown value')) := by
  induction pieces with
  | nil => exact .nil
  | cons piece pieces ih =>
    have hrest := ih fun c hc => hpieces c (List.mem_cons_of_mem _ hc)
    cases piece with
    | literal c => exact .char (hpieces c List.mem_cons_self) hrest
    | field f => exact (hvalue f).append hrest

/-! ## Times -/

theorem inert_stampField (c : Char) : ∀ s ∈ stampField? c, TextOver Inert s := by
  unfold stampField?
  split <;> decide

theorem inert_stamp {pattern : String} (h : TextOver Inert pattern) :
    TextOver Inert (stamp pattern) := by
  suffices hfrom : ∀ cs : List Char, (∀ c ∈ cs, Inert c) → ∀ c ∈ stampFrom cs, Inert c by
    rw [stamp, textOver_ofList]
    exact hfrom _ h
  intro cs hcs
  induction cs using stampFrom.induct with
  | case1 c cs s hfield ih =>
    rw [List.forall_mem_cons, List.forall_mem_cons] at hcs
    rw [stampFrom, hfield]
    exact List.forall_mem_append.mpr ⟨inert_stampField c s hfield, ih hcs.2.2⟩
  | case2 c cs hnone ih =>
    rw [List.forall_mem_cons, List.forall_mem_cons] at hcs
    rw [stampFrom, hnone, List.forall_mem_cons, List.forall_mem_cons]
    exact ⟨hcs.1, hcs.2.1, ih hcs.2.2⟩
  | case3 c cs hc ih =>
    rw [List.forall_mem_cons] at hcs
    rw [stampFrom, List.forall_mem_cons]
    · exact ⟨hcs.1, ih hcs.2⟩
    · exact hc
  | case4 => simp

/-! ## Lines -/

/-- A line is made of the text of the message, if there is one. -/
theorem formatPlain_eq (l : Layout) (s : SharedRecord) :
    (l.formatPlain s).2 = (s.record.text >>= fun m => l.line s m).map s.attached := by
  unfold formatPlain
  cases s.record.text with
  | error e => rfl
  | ok m =>
    show _ = (l.line s m).map s.attached
    dsimp only
    rw [show l.line { s with text := some m } m = l.line s m from rfl]
    cases l.line s m with
    | error e => rfl
    | ok line =>
      have hattached : SharedRecord.attached { s with text := some m } = s.attached :=
        SharedRecord.attached_congr rfl rfl rfl
      exact congrArg Except.ok (congrFun hattached line)

/-- A record that nothing stands behind is its line. -/
theorem formatPlain_of_unattached (h : s.attached = id) :
    (l.formatPlain s).2 = s.record.text >>= fun m => l.line s m := by
  rw [formatPlain_eq, h]
  cases s.record.text >>= fun m => l.line s m <;> rfl

/-- A record in a plain template is its line with what stands behind it. -/
theorem formatPlain_unattached {pieces : List Piece}
    (hl : l.template.toList = pieces.flatMap Piece.spelled) (s : SharedRecord) :
    (l.formatPlain s).2 = (l.formatPlain s.unattached).2.map s.attached := by
  have hline : ∀ m, l.line s.unattached m = l.line s m := by
    intro m
    rw [line_of_pieces hl, line_of_pieces hl]
    rfl
  rw [formatPlain_eq, formatPlain_of_unattached (s := s.unattached) rfl]
  simp only [hline]
  rfl

/-- The same in a layout that may have colours. -/
theorem format_unattached {pieces : List Piece}
    (hl : l.template.toList = pieces.flatMap Piece.spelled) (color : ColorState)
    (s : SharedRecord) : (l.format color s).2 = (l.format color s.unattached).2.map s.attached := by
  have hpaint : paint color s.unattached.record =
      { paint color s.record with exception := none, stack := none } := by
    unfold SharedRecord.unattached paint
    dsimp only
    split <;> rfl
  have hattached : ∀ name, SharedRecord.attached
      ⟨paint color s.record, name, s.text, s.exceptionText⟩ = s.attached := fun name =>
    SharedRecord.attached_congr (exception_paint color _) (stack_paint color _) rfl
  unfold format
  split
  · rw [hpaint]
    exact (formatPlain_unattached hl _).trans (by rw [hattached]; rfl)
  · exact formatPlain_unattached hl s

/-- **Lines with colours and without** are made or not made together. They show the same fields, but
for style codes around the name of the level and, maybe, around the message. -/
theorem alongside_format {pieces : List Piece}
    (hl : l.template.toList = pieces.flatMap Piece.spelled) (hcolored : l.colored = true)
    (hon : on.isOn = true) (hoff : off.isOn = false) (s : SharedRecord) :
    Alongside (fun plain coloured => ∃ m m', s.record.text = .ok m ∧
        (m' = m ∨ m' = Terminal.styled false (levelStyle s.record.level).1 m) ∧
        plain = String.ofList (pieces.flatMap
          (Piece.shown (l.fieldValue s.record.logger s.levelName m))) ∧
        coloured = String.ofList (pieces.flatMap (Piece.shown (l.fieldValue s.record.logger
          (on.colored (levelStyle s.record.level).2 (levelStyle s.record.level).1 s.levelName)
          m'))))
      (l.format off s.unattached).2 (l.format on s.unattached).2 := by
  have hplain : (l.format off s.unattached).2 = (l.formatPlain s.unattached).2 := by
    simp [format, hoff]
  have hcoloured : (l.format on s.unattached).2 = (l.formatPlain { s.unattached with
      record := paint on s.unattached.record
      levelName := on.colored (levelStyle s.record.level).2 (levelStyle s.record.level).1
        s.levelName }).2 := by
    simp [format, hcolored, hon, SharedRecord.unattached]
  have hlogger : (paint on s.unattached.record).logger = s.record.logger := by
    unfold paint
    split <;> rfl
  have hattached : ∀ name, SharedRecord.attached
      ⟨paint on s.unattached.record, name, s.unattached.text, s.unattached.exceptionText⟩ =
        id := fun name =>
    SharedRecord.attached_congr (s := s.unattached) (exception_paint on _) (stack_paint on _) rfl
  rw [hplain, hcoloured, formatPlain_of_unattached rfl, formatPlain_of_unattached (hattached _)]
  refine (Record.text_paint on s.unattached.record).bind fun m m' hm hm' => ?_
  rw [line_of_pieces hl, line_of_pieces hl]
  exact .ok ⟨m, m', hm, hm', rfl, by rw [hlogger]⟩

/-! ## Coloured layouts -/

theorem isPlainTemplate_standardTemplate : IsPlainTemplate standardTemplate :=
  ⟨[.field .time, .literal ' ', .literal '[', .field .level, .literal ']', .literal ' ',
    .field .logger, .literal ':', .literal ' ', .field .message], by decide, by simp; decide⟩

theorem eq_of_make {template : String} {pattern : Option String} {colored : Bool}
    (h : make template pattern colored = .ok l) : l = ⟨template, pattern, colored⟩ := by
  unfold make at h
  split at h
  · exact (Except.ok.inj h).symm
  · contradiction

/-- A coloured layout is what it is made from, or the standard where it is made from nothing. -/
theorem of_makeColored {template pattern : Option String} (h : makeColored template pattern = .ok l)
    (htemplate : ∀ t ∈ template, IsPlainTemplate t) :
    l.colored = true ∧ IsPlainTemplate l.template ∧
      ((∀ p ∈ pattern, TextOver Inert p) → TextOver Inert l.time) := by
  have hstandard : TextOver Inert standardTimePattern := by decide
  obtain rfl := eq_of_make h
  refine ⟨rfl, ?_, fun hpattern => inert_stamp ?_⟩
  · dsimp only
    split
    · exact isPlainTemplate_standardTemplate
    split
    · exact isPlainTemplate_standardTemplate
    · exact htemplate _ rfl
  · dsimp only
    split
    · exact hstandard
    split
    · exact hstandard
    · exact hpattern _ rfl

/-- **A coloured layout adds style codes, and nothing else**, and leaves the record as it was. With
a plain template there is a line with colours just if there is one without. If no character in the
name of the level, the name of the logger, the text of the message or what stands behind the line
takes part in a sequence, then deleting the sequences from the text with colours leaves the text
without, unless the line without colours ends in a line break and the one with colours does not,
while something stands behind it. The message and the name of the level stay in the record whether
there is a text or not. -/
theorem format_adds_colors {template pattern : Option String}
    (htemplate : ∀ t ∈ template, IsPlainTemplate t)
    (hl : makeColored template pattern = .ok l) (hon : on.isOn = true) (hoff : off.isOn = false)
    (s : SharedRecord) :
    ((∃ coloured, (l.format on s).2 = .ok coloured) ↔ ∃ plain, (l.format off s).2 = .ok plain) ∧
    (∀ coloured plain message, (l.format on s).2 = .ok coloured →
      (l.format off s).2 = .ok plain → s.record.text = .ok message →
      (∀ p ∈ pattern, TextOver Inert p) → TextOver Inert s.record.logger →
      TextOver Inert s.levelName → TextOver Inert message →
      (∀ t ∈ s.attachments, TextOver Inert t) →
        (Terminal.deliver 1 coloured.toList = ⟨plain.toList, none⟩ ↔ s.attachments = [] ∨
          ∀ colouredLine line, (l.format on s.unattached).2 = .ok colouredLine →
            (l.format off s.unattached).2 = .ok line →
              SharedRecord.endsLine colouredLine = SharedRecord.endsLine line)) ∧
    ∀ color, (l.format color s).1.record = s.record ∧
      (l.format color s).1.levelName = s.levelName := by
  obtain ⟨hcolored, ⟨pieces, hpieces, hliterals⟩, htime⟩ := of_makeColored hl htemplate
  have hlines := alongside_format hpieces hcolored hon hoff s
  rw [format_unattached hpieces on, format_unattached hpieces off]
  refine ⟨?_, ?_, fun color => l.format_left color s⟩
  · have htogether : Alongside (fun _ _ => True) ((l.format off s.unattached).2.map s.attached)
        ((l.format on s.unattached).2.map s.attached) := hlines.map fun _ _ _ => trivial
    exact htogether.exists_iff.symm
  · -- field by field, the line with colours is the other with style codes put in
    intro coloured plain message hcoloured hplain htext hpattern hlogger hlevel hmessage hattached
    obtain ⟨colouredLine, hcolouredLine, rfl⟩ := exists_of_map_ok hcoloured
    obtain ⟨line, hline, rfl⟩ := exists_of_map_ok hplain
    obtain ⟨m, m', hm, hm', rfl, rfl⟩ := hlines.rel hline hcolouredLine
    obtain rfl := Except.ok.inj (htext.symm.trans hm)
    have hstyle := isStyle_levelStyle s.record.level
    have hfields : ∀ f, Tinted
        (l.fieldValue s.record.logger
          (on.colored (levelStyle s.record.level).2 (levelStyle s.record.level).1 s.levelName)
          m' f).toList
        (l.fieldValue s.record.logger s.levelName message f).toList := by
      intro f
      cases f with
      | time => exact .of_inert (htime hpattern)
      | logger => exact .of_inert hlogger
      | level =>
        have htinted := Terminal.tinted_colored on hoff hstyle hlevel (levelStyle s.record.level).2
        rwa [Terminal.ColorState.colored_off hoff] at htinted
      | message =>
        rcases hm' with rfl | rfl
        · exact .of_inert hmessage
        · exact Terminal.tinted_styled hstyle hmessage false
    have htinted := tinted_shown hfields hliterals
    rw [SharedRecord.deliver_attached_iff (by simpa using htinted) hattached, hcolouredLine, hline]
    simp

/-- An error in a template with a percent sign of its own: the line that is left is the line without
colours. A message that ends in an open placeholder makes no line, with the code behind it or
without. -/
theorem format_adds_colors_open :
    let on : ColorState := ⟨some (.bool true), .bool true, 0⟩
    let off : ColorState := ⟨some (.bool false), .bool false, 1⟩
    let l : Layout := ⟨"%(levelname)s 100%% %(message)s", some standardTimePattern, true⟩
    let full : SharedRecord := .ofRecord
      { level := errorLevel, logger := "x", message := .text "%s is full"
        arguments := [.text "disk"] }
    let opened : SharedRecord := .ofRecord
      { level := errorLevel, logger := "x", message := .text "disk is full: %"
        arguments := [.text ""] }
    makeColored (some l.template) none = .ok l ∧
      (l.format on full).2 = .ok "\x1b[1m\x1b[31mERROR\x1b[0m 100% \x1b[31mdisk is full\x1b[0m" ∧
      Terminal.deliver 1 "\x1b[1m\x1b[31mERROR\x1b[0m 100% \x1b[31mdisk is full\x1b[0m".toList =
        ⟨"ERROR 100% disk is full".toList, none⟩ ∧
      (l.format on full).1.record = full.record ∧
      ((∃ line, (l.format on opened).2 = .ok line) ↔ ∃ line, (l.format off opened).2 = .ok line) ∧
      (l.format off opened).2 = .error .malformed := by
  intro on off l full opened
  have hmake : makeColored (some l.template) none = .ok l := by decide +kernel
  have htemplate : ∀ t ∈ some l.template, IsPlainTemplate t := by
    rintro t ⟨⟩
    exact ⟨[.field .level, .literal ' ', .literal '1', .literal '0', .literal '0', .literal '%',
      .literal ' ', .field .message], by decide, by simp; decide⟩
  have hon : on.isOn = true := rfl
  have hoff : off.isOn = false := rfl
  have hcoloured : (l.format on full).2 =
      .ok "\x1b[1m\x1b[31mERROR\x1b[0m 100% \x1b[31mdisk is full\x1b[0m" := by decide +kernel
  have hplain : (l.format off full).2 = .ok "ERROR 100% disk is full" := by decide +kernel
  have htext : full.record.text = .ok "disk is full" := by decide +kernel
  obtain ⟨-, hdeleted, hleft⟩ := format_adds_colors htemplate hmake hon hoff full
  obtain ⟨htogether, -⟩ := format_adds_colors htemplate hmake hon hoff opened
  refine ⟨hmake, hcoloured, ?_, (hleft on).1, htogether, by decide +kernel⟩
  refine (hdeleted _ _ _ hcoloured hplain htext (by simp) (by decide) (by decide) (by decide)
    ?_).mpr (.inl rfl)
  exact List.forall_mem_nil _

/-- A line that ends in a line break gets another one in front of the text of an exception if there
is a style code behind its own; and a pattern of times may hold a character that is deleted with the
style code behind it. -/
theorem format_adds_colors_broken :
    let on : ColorState := ⟨some (.bool true), .bool true, 0⟩
    let off : ColorState := ⟨some (.bool false), .bool false, 1⟩
    let bare : Layout := ⟨"%(message)s", some standardTimePattern, true⟩
    let raised : SharedRecord := .ofRecord
      { level := errorLevel, logger := "x", message := .text "failed\n", arguments := []
        exception := some ⟨.text "ValueError", "ValueError: x"⟩ }
    let marked : Layout := ⟨"%(asctime)s%(levelname)s", some "\x01", true⟩
    let report : SharedRecord := .ofRecord (.ofText infoLevel "x" "x")
    (makeColored (some bare.template) none = .ok bare ∧
      (bare.format off raised).2 = .ok "failed\nValueError: x" ∧
      (bare.format on raised).2 = .ok "\x1b[31mfailed\n\x1b[0m\nValueError: x" ∧
      (Terminal.deliver 1 "\x1b[31mfailed\n\x1b[0m\nValueError: x".toList).arrived ≠
        "failed\nValueError: x".toList) ∧
    makeColored (some marked.template) (some "\x01") = .ok marked ∧
      (marked.format off report).2 = .ok "\x01INFO" ∧
      (marked.format on report).2 = .ok "\x01\x1b[32mINFO\x1b[0m" ∧
      (Terminal.deliver 1 "\x01\x1b[32mINFO\x1b[0m".toList).arrived ≠ "\x01INFO".toList := by
  decide +kernel

end Layout

end PropertyFilter
