import PropertyFilter.Format.Yaml.Sheet
import PropertyFilter.Proofs.Format.Yaml.Pen
import PropertyFilter.Proofs.Value.Data

/-!
# Which values are written as YAML, and how

Just plain data without times of day is written, unless a number has too many digits. Whatever a
value holds, its document is made of clear characters.

## Main results

* `Yaml.ends_write`: which values are written
* `Yaml.clear_document`: a document holds clear characters only
-/

namespace PropertyFilter

namespace Yaml

namespace Sheet

/-! ## Which values have a sheet -/

/-- How drawing up a sheet ends: well, for plain data with no number of too many digits, and else
by a fault that says which of the two is not so. -/
inductive Ends {α : Type} (data : Prop) (showable : Bool) : Except Fault α → Prop
  | ok (a : α) (hdata : data) (hshowable : showable = true) : Ends data showable (.ok a)
  | unrepresentable (hdata : ¬ data) : Ends data showable (.error .unrepresentable)
  | tooLong (hshowable : showable = false) : Ends data showable (.error .malformed)

section

variable {α β γ : Type} {data data' : Prop} {showable showable' : Bool}

theorem Ends.map {x : Except Fault α} (h : Ends data showable x) (f : α → β) :
    Ends data showable (x.map f) := by
  cases h with
  | ok a hdata hshowable => exact .ok (f a) hdata hshowable
  | unrepresentable hdata => exact .unrepresentable hdata
  | tooLong hshowable => exact .tooLong hshowable

/-- Two parts are drawn up one after the other. -/
theorem Ends.both {x : Except Fault α} {y : Except Fault β} (hx : Ends data showable x)
    (hy : Ends data' showable' y) (f : α → β → γ) :
    Ends (data ∧ data') (showable && showable') (do return f (← x) (← y)) := by
  cases hx with
  | unrepresentable hdata => exact .unrepresentable fun h => hdata h.1
  | tooLong hshowable => exact .tooLong (by simp [hshowable])
  | ok a hdata hshowable =>
    cases hy with
    | unrepresentable hdata' => exact .unrepresentable fun h => hdata' h.2
    | tooLong hshowable' => exact .tooLong (by simp [hshowable'])
    | ok b hdata' hshowable' =>
      exact .ok (f a b) ⟨hdata, hdata'⟩ (by simp [hshowable, hshowable'])

/-- A part that takes a condition of its own. -/
theorem Ends.unless {c : Bool} {x : Except Fault α} (h : Ends data showable x) :
    Ends (c = false ∧ data) showable (if c then .error .unrepresentable else x) := by
  cases c with
  | true => exact .unrepresentable (by simp)
  | false => simpa using h

end

mutual

/-- **The sheet of a value**: plain data have one unless a number has too many digits. -/
theorem ends_ofValue : ∀ v : Value, Ends (v.IsData false) v.isShowable (ofValue v)
  | .octets growable bs => by
    rw [ofValue]
    cases growable with
    | true => exact .unrepresentable (by simp [Value.IsData])
    | false => exact .ok _ (by simp [Value.IsData]) (by simp [Value.isShowable])
  | .int n => by
    rw [ofValue]
    split
    · next hshort => exact .ok _ trivial (by rwa [Value.isShowable])
    · next hlong => exact .tooLong (by simpa [Value.isShowable] using hlong)
  | .list label items | .tuple label items => by
    rw [ofValue, Value.IsData, Value.isShowable]
    exact (ends_ofItems items).map _
  | .set label frozen items => by
    rw [ofValue, Value.IsData, Value.isShowable]
    exact ((ends_ofMembers items).map _).unless
  | .mapping label view entries => by
    rw [ofValue, Value.IsData, Value.isShowable]
    exact ((ends_ofEntries entries).map _).unless
  | .null | .bool _ | .float _ | .text _ | .date _ _ | .moment _ _ => by
    rw [ofValue, Value.IsData, Value.isShowable]
    · exact .ok _ trivial rfl
    all_goals simp
  | .range _ _ _ | .type _ _ | .object _ _ | .clock _ _ => by
    rw [ofValue]
    exact .unrepresentable (by simp [Value.IsData])

theorem ends_ofItems : ∀ vs : List Value,
    Ends (Value.AreData false vs) (Value.allShowable vs) (ofItems vs)
  | [] => by
    rw [ofItems, Value.AreData, Value.allShowable]
    exact .ok _ trivial rfl
  | v :: vs => by
    rw [ofItems, Value.AreData, Value.allShowable]
    exact (ends_ofValue v).both (ends_ofItems vs) _

theorem ends_ofMembers : ∀ vs : List Value,
    Ends (Value.AreData false vs) (Value.allShowable vs) (ofMembers vs)
  | [] => by
    rw [ofMembers, Value.AreData, Value.allShowable]
    exact .ok _ trivial rfl
  | v :: vs => by
    rw [ofMembers, Value.AreData, Value.allShowable]
    exact (ends_ofValue v).both (ends_ofMembers vs) _

theorem ends_ofEntries : ∀ es : List (Value × Value),
    Ends (Value.EntriesAreData false es) (Value.entriesShowable es) (ofEntries es)
  | [] => by
    rw [ofEntries, Value.EntriesAreData, Value.entriesShowable]
    exact .ok _ trivial rfl
  | (key, v) :: es => by
    rw [ofEntries, Value.EntriesAreData, Value.entriesShowable, Bool.and_assoc]
    have hentry := (ends_ofValue key).both ((ends_ofValue v).both (ends_ofEntries es) Prod.mk)
      fun k rest => (k, rest.1) :: rest.2
    simpa using hentry

end

/-! ## What is written of a sheet -/

variable {shared : List Label} {indent : Option Nat} {role : Role}

theorem clear_anchorName? {label : Option Label} {cs : List Char}
    (h : anchorName? shared label = some cs) : ∀ c ∈ cs, Clear c := by
  obtain ⟨l, -, h⟩ := Option.bind_eq_some_iff.mp h
  obtain ⟨i, -, h⟩ := Option.bind_eq_some_iff.mp h
  obtain rfl := Option.some.inj h
  have hletters : Clear 'i' ∧ Clear 'd' ∧ Clear '0' := by decide
  rw [List.forall_mem_cons, List.forall_mem_cons, List.forall_mem_append]
  refine ⟨hletters.1, hletters.2.1, fun c hc => ?_, fun c hc => clear_of_mem_digitsText hc⟩
  exact (List.eq_of_mem_replicate hc) ▸ hletters.2.2

/-- The alias or the anchor of a label, behind its mark. -/
theorem clear_mark {label : Option Label} {mark : Char} (hmark : Clear mark) :
    ∀ c ∈ mark :: (anchorName? shared label).getD [], Clear c := by
  rw [List.forall_mem_cons]
  refine ⟨hmark, ?_⟩
  cases h : anchorName? shared label with
  | none => simp
  | some cs => exact clear_anchorName? h


/-- Only clear characters have been written. -/
def Progress.Clear (w : Progress) : Prop := w.pen.Clear

theorem Progress.Clear.indicator {w : Progress} (hw : w.Clear) {cs : List Char}
    (hcs : ∀ c ∈ cs, Yaml.Clear c) (apart blank indents : Bool) :
    (w.draw (·.indicator cs apart blank indents)).Clear :=
  Pen.Clear.indicator hw hcs _ _ _

theorem Progress.Clear.brackets {w : Progress} (hw : w.Clear) {opening closing : Char}
    (hopening : Yaml.Clear opening) (hclosing : Yaml.Clear closing) :
    (w.draw fun p => (p.indicator [opening] true true false).indicator [closing] false false
      false).Clear :=
  (Pen.Clear.indicator hw (clear_singleton hopening) _ _ _).indicator (clear_singleton hclosing)
    _ _ _

/-- The anchor in front of a sheet, if it has one. -/
theorem Progress.Clear.anchored {w : Progress} (hw : w.Clear) (label : Option Label)
    (done : List Label) :
    (match anchorName? shared label with
      | some cs => Progress.draw (·.indicator ('&' :: cs) true false false) ⟨w.pen, done⟩
      | none => ⟨w.pen, done⟩).Clear := by
  split
  · next cs hname =>
    refine Progress.Clear.indicator hw ?_ _ _ _
    rw [List.forall_mem_cons]
    exact ⟨by decide, clear_anchorName? hname⟩
  · exact hw

/-- The tag in front of a mapping, if it is shown. -/
theorem Progress.Clear.tagged {w : Progress} (hw : w.Clear) (tag : Tag) :
    (if tag = .mapping then w
      else w.draw (·.indicator (Scalar.tagText tag).toList true false false)).Clear := by
  split
  · exact hw
  · exact hw.indicator (Scalar.clear_tagText tag) _ _ _

mutual

/-- **A sheet is written clearly**, whatever it holds. -/
theorem clear_write : ∀ (s : Sheet) {indent : Option Nat} {role : Role} {w : Progress}, w.Clear →
    (write shared indent role s w).Clear
  | s, indent, role, w, hw => by
    rw [write.eq_def]
    dsimp -zeta only
    extract_lets l name w₁ w₂
    split
    · exact hw.indicator (clear_mark (by decide)) _ _ _
    · have hanchor : w₂.Clear := @Progress.Clear.anchored shared w hw s.label? w₁.done
      clear_value w₂
      cases s with
      | scalar label c => exact Scalar.clear_write c _ _ hanchor
      | sequence label items =>
        cases items with
        | nil => exact hanchor.brackets (by decide) (by decide)
        | cons item items => exact clear_writeItems (item :: items) hanchor
      | mapping label tag entries =>
        have htag := hanchor.tagged tag
        cases entries with
        | nil => exact htag.brackets (by decide) (by decide)
        | cons e es => exact clear_writeEntries (e :: es) htag

theorem clear_writeItems : ∀ (items : List Sheet) {indent : Nat} {w : Progress}, w.Clear →
    (writeItems shared indent items w).Clear
  | [], indent, w, hw => by
    rw [writeItems]
    exact hw
  | s :: rest, indent, w, hw => by
    rw [writeItems]
    refine clear_writeItems rest (clear_write s ?_)
    exact (Pen.Clear.indentTo hw indent).indicator (clear_singleton (by decide)) _ _ _

theorem clear_writeEntries : ∀ (entries : List (Sheet × Sheet)) {indent : Nat} {w : Progress},
    w.Clear → (writeEntries shared indent entries w).Clear
  | [], indent, w, hw => by
    rw [writeEntries]
    exact hw
  | (k, v) :: es, indent, w, hw => by
    have hstart : (w.draw (·.indentTo indent)).Clear := Pen.Clear.indentTo hw indent
    rw [writeEntries]
    refine clear_writeEntries es (clear_write v ?_)
    dsimp only
    split
    · exact (clear_write k hstart).indicator (clear_singleton (by decide)) _ _ _
    · have hquery : ((w.draw (·.indentTo indent)).draw
          (·.indicator ['?'] true false true)).Clear :=
        hstart.indicator (clear_singleton (by decide)) _ _ _
      have hkey : (write shared (some indent) .member k _).Clear := clear_write k hquery
      exact (Pen.Clear.indentTo hkey indent).indicator (clear_singleton (by decide)) _ _ _

end

end Sheet

/-- **The document of a value**: plain data have one unless a number has too many digits. -/
theorem ends_write (v : Value) : Sheet.Ends (v.IsData false) v.isShowable (write v) := by
  have hsheet := Sheet.ends_ofValue v
  rw [write]
  generalize Sheet.ofValue v = sheet at hsheet ⊢
  exact hsheet.map fun sheet => _

/-- **A document holds clear characters only.** -/
theorem clear_document {v : Value} {text : String} (h : write v = .ok text) :
    TextOver Clear text := by
  rw [write] at h
  cases hsheet : Sheet.ofValue v with
  | error e =>
    rw [hsheet] at h
    contradiction
  | ok sheet =>
  rw [hsheet] at h
  obtain rfl := Except.ok.inj h
  have hstart : Sheet.Progress.Clear ⟨Pen.start, []⟩ := Pen.clear_start
  exact Pen.Clear.indentTo (Sheet.clear_write sheet hstart) 0

end Yaml

end PropertyFilter
