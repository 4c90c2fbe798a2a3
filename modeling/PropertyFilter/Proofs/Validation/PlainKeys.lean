import PropertyFilter.Proofs.Validation.Report
import PropertyFilter.Proofs.Value.Data
import PropertyFilter.Proofs.Value.Display
import PropertyFilter.Proofs.Value.Sameness

/-!
# Reports on configurations of plain data

In a document, every key becomes a text, and a key that is no text might take the place of a side.
Plain data cannot: no number, date or collection is shown like the key of a side. So for a
configuration of plain data, what is checked at a side is what a look-up finds there, and the report
depends on that alone.

## Main definitions

* `HasPlainSides es`: of all keys, only its text becomes the key of a side

## Main results

* `hasPlainSides_of_isData`: keys that are plain data
* `lastUnder?_eq_findText?_ofList`: what is checked at a side is what a look-up finds
* `issues_eq_filter`: a configuration with fewer issues than another
-/

namespace PropertyFilter

open Document (keyText lastUnder?)
open Number (Numeral)

/-! ## Keys -/

section

variable {s : Side} {k : Value} {clocks : Bool}

/-- The key of a side has a letter that numbers are not written with. -/
theorem ne_key_of_numeral {text : String} (h : TextOver Numeral text) : text ≠ s.key := by
  rintro rfl
  have hd : 'd' ∈ s.key.toList := by cases s <;> decide
  have hnumeral : ¬ Numeral 'd' := by decide
  exact hnumeral (h 'd' hd)

/-- The key of a side does not end as collections do. -/
theorem ne_key_of_getLast? {text : String} {c : Char} (hlast : text.toList.getLast? = some c)
    (hc : c ≠ 's') : text ≠ s.key := by
  rintro rfl
  have hs : s.key.toList.getLast? = some 's' := by cases s <;> rfl
  exact hc (Option.some.inj (hlast.symm.trans hs))

theorem bracketed_ne_key (opening : String) (parts : List String) {closing : String} {c : Char}
    (hclosing : closing.toList.getLast? = some c) (hc : c ≠ 's') :
    bracketed opening parts closing ≠ s.key := by
  refine ne_key_of_getLast? ?_ hc
  rw [bracketed, String.toList_append, List.getLast?_append, hclosing]
  rfl

theorem quotedOctets_ne_key (growable : Bool) (bs : List UInt8) :
    Text.quotedOctets growable bs ≠ s.key := by
  refine ne_key_of_getLast? (c := Text.chooseQuote (bs.map fun b => Char.ofNat b.toNat)) ?_ ?_
  · rw [Text.quotedOctets, String.toList_ofList, List.getLast?_append]
    rfl
  · unfold Text.chooseQuote
    split <;> decide

/-- Among plain data, only a text is shown like the key of a side. -/
theorem shown_ne_key (hk : k.IsData clocks) (htext : ∀ t, k ≠ .text t) : k.shown ≠ s.key := by
  -- a key ends in `s`, and collections, octets and times end in a bracket or a quote
  cases k with
  | null =>
    rw [Value.shown]
    cases s <;> decide
  | bool b =>
    rw [Value.shown]
    cases b <;> cases s <;> decide
  | int n =>
    rw [Value.shown]
    exact ne_key_of_numeral (numeral_intText n)
  | float x =>
    rw [Value.shown]
    exact ne_key_of_numeral x.numeral_text
  | text t => exact absurd rfl (htext t)
  | octets growable bs =>
    rw [Value.shown]
    split
    · exact bracketed_ne_key _ _ (c := ')') rfl (by decide)
    · exact quotedOctets_ne_key growable bs
  | list l items =>
    rw [Value.shown]
    exact bracketed_ne_key _ _ (c := ']') rfl (by decide)
  | tuple l items =>
    rw [Value.shown]
    split
    · refine ne_key_of_getLast? (c := ')') ?_ (by decide)
      rw [String.toList_append, List.getLast?_append]
      rfl
    · exact bracketed_ne_key _ _ (c := ')') rfl (by decide)
  | set l frozen items =>
    rw [Value.shown]
    split
    · cases frozen <;> cases s <;> decide
    · split
      · exact bracketed_ne_key _ _ (c := ')') rfl (by decide)
      · exact bracketed_ne_key _ _ (c := '\x7d') rfl (by decide)
  | mapping l view entries =>
    rw [Value.shown]
    split
    · refine ne_key_of_getLast? (c := ')') ?_ (by decide)
      rw [String.toList_append, List.getLast?_append]
      rfl
    · exact bracketed_ne_key _ _ (c := '\x7d') rfl (by decide)
  | date l d =>
    rw [Value.shown]
    exact bracketed_ne_key _ _ (c := ')') rfl (by decide)
  | moment l m =>
    rw [Value.shown]
    exact bracketed_ne_key _ _ (c := ')') rfl (by decide)
  | clock l t =>
    rw [Value.shown]
    exact bracketed_ne_key _ _ (c := ')') rfl (by decide)
  | range | type | object => simp [Value.IsData] at hk

/-- **The key of a side** is what its text becomes, and no other plain data. -/
theorem keyText_eq_key_iff (hk : k.IsData clocks) : keyText k = s.key ↔ k = .text s.key := by
  by_cases htext : ∃ t, k = .text t
  · obtain ⟨t, rfl⟩ := htext
    simp [keyText]
  · rw [not_exists] at htext
    refine iff_of_false ?_ (htext _)
    have hnone : typeKey? k = none := by
      cases k with
      | text t => exact absurd rfl (htext t)
      | type => simp [Value.IsData] at hk
      | _ => rfl
    rw [keyText, hnone]
    exact shown_ne_key hk htext

end

/-! ## Look-ups -/

section

variable {es : List (Value × Value)} {s : Side}

/-- Of all keys, only its text becomes the key of a side. -/
def HasPlainSides (es : List (Value × Value)) : Prop :=
  ∀ e ∈ es, ∀ s : Side, keyText e.1 = s.key → e.1 = .text s.key

theorem hasPlainSides_of_isData {clocks : Bool}
    (h : ∀ e ∈ es, e.1.IsData clocks ∧ e.2.IsData clocks) : HasPlainSides es := fun e he _ =>
  (keyText_eq_key_iff (h e he).1).mp

theorem HasPlainSides.insert (h : HasPlainSides es) (t : String) (v : Value) :
    HasPlainSides (Entries.insert (.text t) v es) := by
  have hkeys := Entries.forall_mem_insert
    (P := fun k => ∀ s : Side, keyText k = s.key → k = .text s.key) (Q := fun _ : Value => True)
    (k := .text t) (a := v) (by simp [keyText]) trivial fun e he => ⟨h e he, trivial⟩
  exact fun e he => (hkeys e he).1

/-- **What is checked at a side** is what a look-up finds there, once every key is kept once. -/
theorem lastUnder?_eq_findText?_ofList (h : HasPlainSides es) :
    lastUnder? es s.key = Entries.findText? (Entries.ofList es) s.key := by
  induction es using List.reverseRecOn with
  | nil => rfl
  | append_singleton es e ih =>
    obtain ⟨k, v⟩ := e
    have hes : HasPlainSides es := fun e he => h e (List.mem_append_left _ he)
    rw [Document.lastUnder?_snoc, Entries.ofList_snoc, ih hes]
    by_cases hk : k = .text s.key
    · subst hk
      simp [keyText, Entries.findText?_insert]
    · have hkey : keyText k ≠ s.key := fun heq => hk (h (k, v) (by simp) s heq)
      rw [if_neg hkey, Entries.findText?_insert_of_ne hk]

end

/-! ## Reports -/

section

variable {label label' : Option Label} {view view' : Bool} {es es' : List (Value × Value)}
  {i : Issue}

/-- The report on a mapping is about what is checked at its sides. -/
theorem mem_issues_mapping_iff :
    i ∈ issues (.mapping label view es) ↔
      ∃ (s : Side) (v : Value), lastUnder? es s.key = some v ∧
        i ∈ sideSchema.issues [s.key] (.ofValue v) := by
  rw [issues, List.mem_mergeSort, mem_configurationSchema_issues_iff, Document.ofValue]
  simp only [Document.field?_ofEntries]
  constructor
  · rintro (⟨-, hroot⟩ | ⟨s, e, he, hi⟩)
    · exact absurd rfl (hroot _)
    · obtain ⟨v, hv, rfl⟩ := Option.map_eq_some_iff.mp he
      exact ⟨s, v, hv, hi⟩
  · rintro ⟨s, v, hv, hi⟩
    exact .inr ⟨s, _, by rw [hv]; rfl, hi⟩

/-- **A report with fewer issues**: if a configuration has those issues of another that pass a test,
it has them in the same order. -/
theorem issues_eq_filter {c c' : Value} {p : Issue → Bool}
    (h : ∀ i, i ∈ issues c ↔ i ∈ issues c' ∧ p i = true) : issues c = (issues c').filter p := by
  have : Std.Antisymm fun a b : Issue => a.place < b.place :=
    ⟨fun a b hab hba => absurd hba (lt_asymm hab)⟩
  have : Std.Irrefl fun a b : Issue => a.place < b.place := ⟨fun a => lt_irrefl a.place⟩
  refine (pairwise_lt_issues c).eq_of_mem_iff ((pairwise_lt_issues c').filter p) fun i => ?_
  rw [h, List.mem_filter]

/-- So reports agree if the same is checked at the sides. -/
theorem issues_eq_of_lastUnder? (h : ∀ s : Side, lastUnder? es s.key = lastUnder? es' s.key) :
    issues (.mapping label view es) = issues (.mapping label' view' es') := by
  have hsame : issues (.mapping label view es) =
      (issues (.mapping label' view' es')).filter fun _ => true :=
    issues_eq_filter fun i => by simp only [mem_issues_mapping_iff, h, and_true]
  rw [hsame, List.filter_true]

end

end PropertyFilter
