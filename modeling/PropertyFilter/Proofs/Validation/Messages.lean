import PropertyFilter.Proofs.Validation.Places
import PropertyFilter.Proofs.Value.Display

/-!
# Texts of issues

The text of an issue names its place by the keys that lead to it, which are shown as they are, and
what is found there, which is quoted. So it has no character of an escape sequence if no key has
one.

## Main definitions

* `Document.Over P d`: every character of the texts in a document satisfies `P`

## Main results

* `Document.over_ofValue`: the document of a value
* `Schema.over_of_mem_issues`: places of issues, and what is found there
* `inert_of_mem_issueMessages`: the texts of issues
-/

namespace PropertyFilter

open Terminal (Inert)

namespace Document

mutual

/-- Every character of the texts in a document satisfies `P`, keys among them. -/
def Over (P : Char → Prop) : Document → Prop
  | fields entries => FieldsOver P entries
  | row items => RowOver P items
  | leaf v => v.Over P

/-- The same for the documents of a row. -/
def RowOver (P : Char → Prop) : List Document → Prop
  | [] => True
  | d :: ds => Over P d ∧ RowOver P ds

/-- The same for fields. -/
def FieldsOver (P : Char → Prop) : List (String × Document) → Prop
  | [] => True
  | (key, d) :: es => TextOver P key ∧ Over P d ∧ FieldsOver P es

end

variable {P : Char → Prop} {d e : Document} {key : String}

theorem rowOver_iff {ds : List Document} : RowOver P ds ↔ ∀ d ∈ ds, d.Over P := by
  induction ds with
  | nil => simp [RowOver]
  | cons d ds ih => simp [RowOver, ih]

theorem fieldsOver_iff {es : List (String × Document)} :
    FieldsOver P es ↔ ∀ e ∈ es, TextOver P e.1 ∧ e.2.Over P := by
  induction es with
  | nil => simp [FieldsOver]
  | cons e es ih =>
    obtain ⟨key, d⟩ := e
    rw [FieldsOver, ih, List.forall_mem_cons, and_assoc]

theorem FieldsOver.insert {es : List (String × Document)} (hkey : TextOver P key) (hd : d.Over P)
    (hes : FieldsOver P es) : FieldsOver P (Document.insert key d es) := by
  induction es with
  | nil =>
    rw [Document.insert, FieldsOver]
    exact ⟨hkey, hd, hes⟩
  | cons e es ih =>
    obtain ⟨key', d'⟩ := e
    rw [FieldsOver] at hes
    rw [Document.insert]
    split <;> rw [FieldsOver]
    · exact ⟨hes.1, hd, hes.2.2⟩
    · exact ⟨hes.1, hes.2.1, ih hes.2.2⟩

/-- A field, and its key. -/
theorem Over.field? (hd : d.Over P) (h : d.field? key = some e) : TextOver P key ∧ e.Over P := by
  cases d with
  | fields entries =>
    rw [Over, fieldsOver_iff] at hd
    obtain ⟨entry, hentry, rfl⟩ := Option.map_eq_some_iff.mp h
    have hkey := List.find?_some hentry
    rw [beq_iff_eq] at hkey
    exact hkey ▸ hd entry (List.mem_of_find?_eq_some hentry)
  | row items => contradiction
  | leaf v => contradiction

/-! ## Documents of values -/

/-- The text of a key is shown as it is, or in the form of messages. -/
theorem inert_keyText {v : Value} (h : v.Over Inert) : TextOver Inert (keyText v) := by
  unfold keyText
  cases v with
  | text s | type s serial =>
    rw [Value.Over] at h
    exact h
  | _ => exact Value.inert_shown h

mutual

/-- **The document of a value** has inert characters only, if the value does. -/
theorem over_ofValue : ∀ {v : Value}, v.Over Inert → (ofValue v).Over Inert
  | .mapping _ _ entries, h => by
    rw [Value.Over] at h
    rw [ofValue, Over]
    exact over_ofEntries trivial h
  | .list _ items, h | .tuple _ items, h | .set _ _ items, h => by
    rw [Value.Over] at h
    rw [ofValue, Over]
    exact over_ofItems h
  | .null, h | .bool _, h | .int _, h | .float _, h | .text _, h | .octets _ _, h
  | .range _ _ _, h | .type _ _, h | .object _ _, h | .date _ _, h | .moment _ _, h
  | .clock _ _, h => by
    rw [ofValue, Over]
    · exact h
    all_goals simp

theorem over_ofItems : ∀ {vs : List Value}, Value.AllOver Inert vs → RowOver Inert (ofItems vs)
  | [], _ => by
    rw [ofItems, RowOver]
    trivial
  | v :: vs, h => by
    rw [Value.AllOver] at h
    rw [ofItems, RowOver]
    exact ⟨over_ofValue h.1, over_ofItems h.2⟩

theorem over_ofEntries : ∀ {es : List (Value × Value)} {acc : List (String × Document)},
    FieldsOver Inert acc → Value.EntriesOver Inert es → FieldsOver Inert (ofEntries acc es)
  | [], _, hacc, _ => by
    rw [ofEntries]
    exact hacc
  | (key, v) :: es, _, hacc, h => by
    rw [Value.EntriesOver] at h
    rw [ofEntries]
    have hinsert := hacc.insert (inert_keyText h.1) (over_ofValue h.2.1)
    exact over_ofEntries hinsert h.2.2

end

mutual

/-- The form in which messages show a document. -/
theorem inert_shown : ∀ {d : Document}, d.Over Inert → TextOver Inert d.shown
  | .fields entries, h => by
    rw [Over] at h
    rw [shown]
    exact inert_bracketed (by decide) (inert_shownFields h) (by decide)
  | .row items, h => by
    rw [Over] at h
    rw [shown]
    exact inert_bracketed (by decide) (inert_shownRow h) (by decide)
  | .leaf v, h => by
    rw [Over] at h
    rw [shown]
    exact Value.inert_shown h

theorem inert_shownRow : ∀ {ds : List Document}, RowOver Inert ds →
    ∀ s ∈ shownRow ds, TextOver Inert s
  | [], _ => by simp [shownRow]
  | d :: ds, h => by
    rw [RowOver] at h
    rw [shownRow, List.forall_mem_cons]
    exact ⟨inert_shown h.1, inert_shownRow h.2⟩

theorem inert_shownFields : ∀ {es : List (String × Document)}, FieldsOver Inert es →
    ∀ s ∈ shownFields es, TextOver Inert s
  | [], _ => by simp [shownFields]
  | (key, d) :: es, h => by
    rw [FieldsOver] at h
    rw [shownFields, List.forall_mem_cons]
    exact ⟨((Text.inert_quoted key).append (by decide)).append (inert_shown h.2.1),
      inert_shownFields h.2.2⟩

end

end Document

/-! ## Issues -/

/-- **Issues lie at places of the document**, and find a part of it. -/
theorem Schema.over_of_mem_issues {s : Schema} {place : List String} {d : Document} {i : Issue}
    (h : i ∈ s.issues place d) (hplace : ∀ n ∈ place, TextOver Inert n) (hd : d.Over Inert) :
    (∀ n ∈ i.place, TextOver Inert n) ∧ i.found.Over Inert := by
  induction s using induction generalizing place d with
  | step kinds fields others items ihfields ihothers ihitems =>
    have hbelow : ∀ {n : String}, TextOver Inert n → ∀ m ∈ place ++ [n], TextOver Inert m :=
      fun hn => List.forall_mem_append.mpr ⟨hplace, List.forall_mem_singleton.mpr hn⟩
    rcases mem_issues.mp h with ⟨rfl, -⟩ | ⟨f, hf, e, hfield, hi⟩ |
      ⟨o, ho, entries, rfl, e, he, -, hi⟩ | ⟨o, ho, ds, rfl, n, e, he, hi⟩
    · exact ⟨hplace, hd⟩
    · obtain ⟨hkey, he⟩ := hd.field? hfield
      exact ihfields f hf hi (hbelow hkey) he
    · rw [Document.Over, Document.fieldsOver_iff] at hd
      obtain ⟨hkey, hvalue⟩ := hd e he
      exact ihothers o ho hi (hbelow hkey) hvalue
    · rw [Document.Over, Document.rowOver_iff] at hd
      exact ihitems o ho hi (hbelow (inert_toString n)) (hd e (List.mem_of_getElem? he))

theorem Issue.inert_message {i : Issue} (hplace : ∀ n ∈ i.place, TextOver Inert n)
    (hfound : i.found.Over Inert) : TextOver Inert i.message := by
  have hlocation : TextOver Inert (location i.place) := by
    unfold location
    split
    · decide
    · exact TextOver.intercalate (by decide) hplace
  have hkinds : TextOver Inert (String.intercalate ", "
      (i.allowed.map fun k => Text.quoted k.name)) := by
    refine TextOver.intercalate (by decide) fun s hs => ?_
    obtain ⟨k, -, rfl⟩ := List.mem_map.mp hs
    exact Text.inert_quoted k.name
  have hshown := Document.inert_shown hfound
  exact (((hlocation.append (by decide)).append hshown).append (by decide)).append hkinds

/-- **The texts of issues** have inert characters only, if the configuration does. -/
theorem inert_of_mem_issueMessages {c : Value} (hc : c.Over Inert) :
    ∀ s ∈ issueMessages c, TextOver Inert s := by
  intro s hs
  obtain ⟨i, hi, rfl⟩ := List.mem_map.mp hs
  rw [issues, List.mem_mergeSort] at hi
  obtain ⟨hplace, hfound⟩ := Schema.over_of_mem_issues hi (by simp) (Document.over_ofValue hc)
  exact Issue.inert_message hplace hfound

end PropertyFilter
