import PropertyFilter.Proofs.Filter.Sides
import PropertyFilter.Proofs.Validation.Report

/-!
# What the report says of passed-over entries

Reading a configuration passes over sides of an unsupported type and over entries whose key or value
cannot be used. The report on the configuration is about its document, where keys are texts. So it
names what is passed over, except in two cases: another value has taken the place in the document,
or the key cannot be used and the value is one that a type may have.

## Main definitions

* `IsIgnored v`: a side cannot be read from `v`
* `AreNames v`, `Document.Misnamed f`: `v` is a text or holds texts only; `f` does not
* `ReportedAt c place`, `ReportedBelow c place`: the report on `c` names `place`, or a place there

## Main results

* `reportedAt_side_iff`: when the report names a side
* `reportedBelow_iff`: when the report names the names of a type or one of them
* `reported_iff_of_skipped`: which of the passed-over sides and entries the report names
-/

namespace PropertyFilter

open Document (keyText lastUnder?)
open OutputFilters (sideValue)

/-! ## Values and their documents -/

/-- The items of a list, a tuple or a set. -/
def Value.items? : Value → Option (List Value)
  | .list _ items | .tuple _ items | .set _ _ items => some items
  | _ => none

/-- A side cannot be read from a value: it is there, but neither a text nor a mapping. -/
def IsIgnored (v : Value) : Prop := v ≠ .null ∧ (∀ t, v ≠ .text t) ∧ v.entries? = none

/-- The names of a type as they have to be: a text, or texts in a list, a tuple or a set. -/
def AreNames (v : Value) : Prop :=
  (∃ s, v = .text s) ∨ ∃ items, v.items? = some items ∧ ∀ w ∈ items, ∃ s, w = .text s

namespace Document

theorem ofValue_eq_null_iff {v : Value} : ofValue v = .leaf .null ↔ v = .null := by
  cases v <;> simp [ofValue]

theorem ofValue_eq_text_iff {v : Value} {s : String} :
    ofValue v = .leaf (.text s) ↔ v = .text s := by
  cases v <;> simp [ofValue]

theorem ofValue_ne_fields_iff {v : Value} :
    (∀ entries, ofValue v ≠ .fields entries) ↔ v.entries? = none := by
  cases v <;> simp [ofValue, Value.entries?]

theorem ofValue_eq_row_iff {v : Value} {ds : List Document} :
    ofValue v = .row ds ↔ ∃ items, v.items? = some items ∧ items.map ofValue = ds := by
  cases v <;> simp [ofValue, Value.items?, ofItems_eq_map]

/-- A look-up in the document of a value finds the document of the last value under the text, if the
value is a mapping. -/
theorem field?_ofValue_eq_some_iff {v : Value} {t : String} {d : Document} :
    (ofValue v).field? t = some d ↔
      ∃ es w, v.entries? = some es ∧ lastUnder? es t = some w ∧ ofValue w = d := by
  cases v with
  | mapping l view es => simp [ofValue, field?_ofEntries, Value.entries?]
  | _ => simp [ofValue, Value.entries?]

theorem field?_ofMapping_eq_some_iff {label : Option Label} {view : Bool}
    {entries : List (Value × Value)} {t : String} {d : Document} :
    (ofValue (.mapping label view entries)).field? t = some d ↔
      ∃ w, lastUnder? entries t = some w ∧ ofValue w = d := by
  simp [field?_ofValue_eq_some_iff, Value.entries?]

end Document

/-- Names in a document that are not as they have to be: neither a text nor a row, or a row with an
item that is no text. -/
def Document.Misnamed (f : Document) : Prop :=
  ((∀ t, f ≠ .leaf (.text t)) ∧ ∀ items, f ≠ .row items) ∨
    ∃ items, f = .row items ∧ ∃ (n : Nat) (g : Document), items[n]? = some g ∧
      ∀ t, g ≠ .leaf (.text t)

theorem not_areNames_iff {v : Value} :
    ¬ AreNames v ↔ (∀ s, v ≠ .text s) ∧
      ∀ items, v.items? = some items → ∃ w ∈ items, ∀ s, w ≠ .text s := by
  simp only [AreNames, not_or, not_exists, not_and, not_forall, exists_prop]

/-- The document of a value has wrong names if the value has. -/
theorem Document.misnamed_ofValue_iff {v : Value} : (ofValue v).Misnamed ↔ ¬ AreNames v := by
  rw [not_areNames_iff]
  constructor
  · rintro (⟨htext, hrow⟩ | ⟨ds, hds, n, g, hg, htext⟩)
    · refine ⟨fun t => mt ofValue_eq_text_iff.mpr (htext t), fun items hitems => ?_⟩
      exact absurd (ofValue_eq_row_iff.mpr ⟨items, hitems, rfl⟩) (hrow _)
    · obtain ⟨items, hitems, rfl⟩ := ofValue_eq_row_iff.mp hds
      refine ⟨fun t ht => by simp [ht, Value.items?] at hitems, fun items' hitems' => ?_⟩
      obtain rfl := Option.some.inj (hitems.symm.trans hitems')
      rw [List.getElem?_map] at hg
      obtain ⟨x, hx, rfl⟩ := Option.map_eq_some_iff.mp hg
      exact ⟨x, List.mem_of_getElem? hx, fun t => mt ofValue_eq_text_iff.mpr (htext t)⟩
  · rintro ⟨htext, hitems⟩
    cases hrow : v.items? with
    | none =>
      refine .inl ⟨fun t => mt ofValue_eq_text_iff.mp (htext t), fun ds hds => ?_⟩
      obtain ⟨items, hitems, -⟩ := ofValue_eq_row_iff.mp hds
      simp [hrow] at hitems
    | some items =>
      obtain ⟨x, hx, hxtext⟩ := hitems items hrow
      obtain ⟨n, hn⟩ := List.mem_iff_getElem?.mp hx
      refine .inr ⟨_, ofValue_eq_row_iff.mpr ⟨items, hrow, rfl⟩, n, ofValue x, by simp [hn], ?_⟩
      exact fun t => mt ofValue_eq_text_iff.mp (hxtext t)

/-! ## What is passed over -/

theorem isIgnored_of_mem_notices {w : Value} {defaults : List Value} {n : String}
    (h : .ignoredFilter n ∈ (NameFilter.fromConfiguration w defaults).notices) : IsIgnored w := by
  cases w with
  | text s => simp [NameFilter.fromConfiguration, Shape.ofValue, NameFilter.shapeNotices] at h
  | null => simp [NameFilter.fromConfiguration, Shape.ofValue, NameFilter.shapeNotices] at h
  | mapping label view entries =>
    obtain ⟨e, -, hfate⟩ := NameFilter.mem_noticesOf_iff.mp h
    simp [NameFilter.entryFate_eq_skipped_iff] at hfate
  | _ => simp [IsIgnored, Value.entries?]

theorem AreNames.propertyNames?_ne_none {v : Value} (h : AreNames v) : propertyNames? v ≠ none := by
  rcases h with ⟨s, rfl⟩ | ⟨items, hitems, -⟩
  · simp
  · cases v <;> simp [Value.items?, propertyNames?] at hitems ⊢

/-- An entry that is passed over has a key that cannot be used, or a value that is not names. -/
theorem typeKey?_eq_none_or_of_skipped {key value : Value} {n : Notice}
    (h : NameFilter.entryFate key value = .skipped n) :
    typeKey? key = none ∨ ¬ AreNames value := by
  rcases NameFilter.entryFate_eq_skipped_iff.mp h with ⟨hkey, -⟩ | ⟨t, -, hnames, -⟩
  · exact .inl hkey
  · exact .inr fun h => h.propertyNames?_ne_none hnames

/-! ## Places in the report -/

/-- The report on a configuration names a place. -/
def ReportedAt (c : Value) (place : List String) : Prop := ∃ i ∈ issues c, i.place = place

/-- The report on a configuration names a place or one below it. -/
def ReportedBelow (c : Value) (place : List String) : Prop := ∃ i ∈ issues c, place <+: i.place

/-- At or below the place of a type's names, a document offends by these names only. -/
theorem exists_offends_below_iff {d : Document} {s : Side} {t : String} :
    (∃ i, Offends d i ∧ [s.key, t] <+: i.place) ↔
      ∃ e f, d.field? s.key = some e ∧ e.field? t = some f ∧ f.Misnamed := by
  constructor
  · rintro ⟨i, hi, hplace⟩
    cases hi with
    | root | side => simp at hplace
    | names s' he hf htext hrow =>
      obtain ⟨hs, rfl⟩ : s.key = s'.key ∧ t = _ := by simpa using hplace
      obtain rfl := Side.key_injective hs
      exact ⟨_, _, he, hf, .inl ⟨htext, hrow⟩⟩
    | name s' he hf hg htext =>
      obtain ⟨hs, rfl⟩ : s.key = s'.key ∧ t = _ := by simpa using hplace
      obtain rfl := Side.key_injective hs
      exact ⟨_, _, he, hf, .inr ⟨_, rfl, _, _, hg, htext⟩⟩
  · rintro ⟨e, f, he, hf, ⟨htext, hrow⟩ | ⟨items, rfl, n, g, hg, htext⟩⟩
    · exact ⟨_, .names s he hf htext hrow, List.prefix_rfl⟩
    · exact ⟨_, .name s he hf hg htext, by simp⟩

section

variable {label : Option Label} {view : Bool} {entries : List (Value × Value)} {s : Side}

/-- **A side is reported** if it cannot be read from the last value under its key. -/
theorem reportedAt_side_iff :
    ReportedAt (.mapping label view entries) [s.key] ↔
      ∃ w, lastUnder? entries s.key = some w ∧ IsIgnored w := by
  simp only [ReportedAt, mem_issues_iff]
  constructor
  · rintro ⟨i, hi, hplace⟩
    cases hi with
    | side s' he hnull htext hfields =>
      obtain rfl := Side.key_injective (List.singleton_inj.mp hplace)
      obtain ⟨w, hw, rfl⟩ := Document.field?_ofMapping_eq_some_iff.mp he
      refine ⟨w, hw, mt Document.ofValue_eq_null_iff.mpr hnull, fun t ht => ?_, ?_⟩
      · exact htext t (Document.ofValue_eq_text_iff.mpr ht)
      · exact Document.ofValue_ne_fields_iff.mp hfields
    | _ => simp at hplace
  · rintro ⟨w, hw, hnull, htext, hentries⟩
    refine ⟨_, .side s (Document.field?_ofMapping_eq_some_iff.mpr ⟨w, hw, rfl⟩) ?_ ?_ ?_, rfl⟩
    · exact mt Document.ofValue_eq_null_iff.mp hnull
    · exact fun t => mt Document.ofValue_eq_text_iff.mp (htext t)
    · exact Document.ofValue_ne_fields_iff.mpr hentries

/-- **The names of a type are reported**, or one of them is, if the last value under the key of the
side is a mapping, and the last value there under the type is not names as they have to be. -/
theorem reportedBelow_iff {t : String} :
    ReportedBelow (.mapping label view entries) [s.key, t] ↔
      ∃ w sub v, lastUnder? entries s.key = some w ∧ w.entries? = some sub ∧
        lastUnder? sub t = some v ∧ ¬ AreNames v := by
  simp only [ReportedBelow, mem_issues_iff, exists_offends_below_iff]
  constructor
  · rintro ⟨e, f, he, hf, hnames⟩
    obtain ⟨w, hw, rfl⟩ := Document.field?_ofMapping_eq_some_iff.mp he
    obtain ⟨sub, v, hsub, hv, rfl⟩ := Document.field?_ofValue_eq_some_iff.mp hf
    exact ⟨w, sub, v, hw, hsub, hv, Document.misnamed_ofValue_iff.mp hnames⟩
  · rintro ⟨w, sub, v, hw, hsub, hv, hnames⟩
    refine ⟨_, _, Document.field?_ofMapping_eq_some_iff.mpr ⟨w, hw, rfl⟩, ?_,
      Document.misnamed_ofValue_iff.mpr hnames⟩
    exact Document.field?_ofValue_eq_some_iff.mpr ⟨sub, v, hsub, hv, rfl⟩

variable (label view entries s) in
/-- **Which passed-over parts of a configuration are reported.** A side that is ignored is reported
if the last value under its key is one that is ignored. An entry that is passed over is reported if
the last value under the key of the side is a mapping in which the last value under the text of the
entry's key is not names as they have to be. Hence, where neither the side nor the entry has lost
its place to a later one, an ignored side is reported, and an entry that is passed over is reported
unless its key cannot be used while its value could. -/
theorem reported_iff_of_skipped :
    (∀ defaults n,
      .ignoredFilter n ∈ (NameFilter.fromConfiguration (sideValue entries s) defaults).notices →
      (ReportedAt (.mapping label view entries) [s.key] ↔
        ∃ w, lastUnder? entries s.key = some w ∧ IsIgnored w) ∧
      (lastUnder? entries s.key = some (sideValue entries s) →
        ReportedAt (.mapping label view entries) [s.key])) ∧
    ∀ sub key value n, (sideValue entries s).entries? = some sub → (key, value) ∈ sub →
      NameFilter.entryFate key value = .skipped n →
      (ReportedBelow (.mapping label view entries) [s.key, keyText key] ↔
        ∃ w sub' v, lastUnder? entries s.key = some w ∧ w.entries? = some sub' ∧
          lastUnder? sub' (keyText key) = some v ∧ ¬ AreNames v) ∧
      (lastUnder? entries s.key = some (sideValue entries s) →
        lastUnder? sub (keyText key) = some value →
        (ReportedBelow (.mapping label view entries) [s.key, keyText key] ↔
          (typeKey? key = none → ¬ AreNames value))) := by
  refine ⟨fun defaults n hn => ⟨reportedAt_side_iff, fun hlast => ?_⟩,
    fun sub key value n hsub hmem hskipped => ⟨reportedBelow_iff, fun hlast hlast' => ?_⟩⟩
  · exact reportedAt_side_iff.mpr ⟨_, hlast, isIgnored_of_mem_notices hn⟩
  · rw [reportedBelow_iff]
    constructor
    · rintro ⟨w, sub', v, hw, hsub', hv, hnames⟩ -
      obtain rfl := Option.some.inj (hlast.symm.trans hw)
      obtain rfl := Option.some.inj (hsub.symm.trans hsub')
      obtain rfl := Option.some.inj (hlast'.symm.trans hv)
      exact hnames
    · intro hkey
      refine ⟨_, sub, value, hlast, hsub, hlast', ?_⟩
      exact (typeKey?_eq_none_or_of_skipped hskipped).elim hkey id

/-- A number as a key is passed over, and no issue says so where the value is a text. -/
theorem reported_iff_of_skipped_number :
    NameFilter.entryFate (.int 42) (.text "a") = .skipped (.skippedKey "42") ∧
      ¬ ReportedBelow (.mapping none false
        [(.text "excludes", .mapping none false [(.int 42, .text "a")])]) ["excludes", "42"] ∧
      issues (.mapping none false
        [(.text "excludes", .mapping none false [(.int 42, .text "a")])]) = [] := by
  have hskipped : NameFilter.entryFate (.int 42) (.text "a") = .skipped (.skippedKey "42") := by
    cbv
  have hside : sideValue [(.text "excludes", .mapping none false [(.int 42, .text "a")])] .excludes
      = .mapping none false [(.int 42, .text "a")] := by
    simp [sideValue, Entries.findText?_cons, Side.key]
  obtain ⟨-, hentries⟩ := reported_iff_of_skipped none false
    [(.text "excludes", .mapping none false [(.int 42, .text "a")])] .excludes
  rw [hside] at hentries
  obtain ⟨-, hreported⟩ := hentries _ _ _ _ rfl (by simp) hskipped
  refine ⟨hskipped, fun h => ?_, by cbv⟩
  exact (hreported (by rfl) (by rfl)).mp h rfl (.inl ⟨_, rfl⟩)

end

end PropertyFilter
