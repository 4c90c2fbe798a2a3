import PropertyFilter.Proofs.Validation.Coverage

/-!
# The kinds of values for names

What may stand for the names of a type is decided twice. Reading keeps an entry whose value is a
text, a row or a set; checking brings the configuration into the form of a document first, and
allows a text and a row there. The two decisions agree on every value but one kind: a range can be
read as a row of numbers, and is no row in a document. So it is kept, and reported.

## Main definitions

* `IsTextOrRow v`: a text, or a list, a tuple or a set
* `soleEntry s t v`: the configuration with a single entry on one side

## Main results

* `not_isTextOrRow_iff`: the two decisions compared
* `reportedAt_names_iff`: when the report names the names of a type
* `reported_soleEntry_iff`: the report on an entry, compared with reading it
-/

namespace PropertyFilter

open Document (lastUnder?)

/-- A text, or a list, a tuple or a set. -/
def IsTextOrRow (v : Value) : Prop := (∃ s, v = .text s) ∨ ∃ items, v.items? = some items

/-- What is neither a text nor a row stands for no names, with the exception of ranges. -/
theorem not_isTextOrRow_iff {v : Value} :
    ¬ IsTextOrRow v ↔ propertyNames? v = none ∨ ∃ start stop step, v = .range start stop step := by
  cases v <;> simp [propertyNames?, IsTextOrRow, Value.items?]

/-- In documents, texts and rows are all that is allowed for the names of a type. -/
theorem Document.not_allowed_ofValue_iff {v : Value} :
    ((∀ s, ofValue v ≠ .leaf (.text s)) ∧ ∀ ds, ofValue v ≠ .row ds) ↔ ¬ IsTextOrRow v := by
  cases v <;> simp [ofValue, IsTextOrRow, Value.items?]

/-! ## Reports on the names of a type -/

section

variable {label : Option Label} {view : Bool} {entries : List (Value × Value)} {s : Side}
  {t : String}

/-- What is found wrong with the names of a type as a whole: the last value under the type, in the
last value under the key of the side, is neither a text nor a row. -/
theorem mem_issues_names_iff {i : Issue} :
    (i ∈ issues (.mapping label view entries) ∧ i.place = [s.key, t]) ↔
      ∃ w sub v, lastUnder? entries s.key = some w ∧ w.entries? = some sub ∧
        lastUnder? sub t = some v ∧ ¬ IsTextOrRow v ∧
        i = ⟨[s.key, t], .ofValue v, [.string, .array]⟩ := by
  rw [mem_issues_iff]
  constructor
  · rintro ⟨hi, hplace⟩
    cases hi with
    | names s' he hf htext hrow =>
      obtain ⟨hs, rfl⟩ : s'.key = s.key ∧ _ = t := by simpa using hplace
      obtain rfl := Side.key_injective hs
      obtain ⟨w, hw, rfl⟩ := Document.field?_ofMapping_eq_some_iff.mp he
      obtain ⟨sub, v, hsub, hv, rfl⟩ := Document.field?_ofValue_eq_some_iff.mp hf
      exact ⟨w, sub, v, hw, hsub, hv, Document.not_allowed_ofValue_iff.mp ⟨htext, hrow⟩, rfl⟩
    | _ => simp at hplace
  · rintro ⟨w, sub, v, hw, hsub, hv, hkind, rfl⟩
    obtain ⟨htext, hrow⟩ := Document.not_allowed_ofValue_iff.mpr hkind
    refine ⟨.names s (Document.field?_ofMapping_eq_some_iff.mpr ⟨w, hw, rfl⟩) ?_ htext hrow, rfl⟩
    exact Document.field?_ofValue_eq_some_iff.mpr ⟨sub, v, hsub, hv, rfl⟩

/-- **The names of a type are reported as a whole** if the last value under the type is neither a
text nor a row. -/
theorem reportedAt_names_iff :
    ReportedAt (.mapping label view entries) [s.key, t] ↔
      ∃ w sub v, lastUnder? entries s.key = some w ∧ w.entries? = some sub ∧
        lastUnder? sub t = some v ∧ ¬ IsTextOrRow v := by
  simp only [ReportedAt, mem_issues_names_iff]
  constructor
  · rintro ⟨i, w, sub, v, hw, hsub, hv, hkind, -⟩
    exact ⟨w, sub, v, hw, hsub, hv, hkind⟩
  · rintro ⟨w, sub, v, hw, hsub, hv, hkind⟩
    exact ⟨_, w, sub, v, hw, hsub, hv, hkind, rfl⟩

end

/-! ## A single entry -/

/-- The configuration with a single entry on one side. -/
def soleEntry (s : Side) (t : String) (v : Value) : Value :=
  .mapping none false [(.text s.key, .mapping none false [(.text t, v)])]

section

variable {s : Side} {t : String} {v : Value} {i : Issue}

/-- In a mapping with a single text for a key, only its value can be found. -/
theorem lastUnder?_singleton_iff {k t : String} {v w : Value} :
    lastUnder? [(.text k, v)] t = some w ↔ k = t ∧ v = w := by
  simp [Document.lastUnder?, Document.keyText]

theorem Issue.location_eq {place : List String} (h : String.intercalate "/" place ≠ "") :
    location place = String.intercalate "/" place := by
  unfold location
  split
  · next hempty => exact absurd hempty h
  · rfl

theorem Issue.location_pair (a b : String) : location [a, b] = a ++ "/" ++ b := by
  refine location_eq fun h : a ++ "/" ++ b = "" => ?_
  simp at h

theorem Issue.location_triple (a b c : String) :
    location [a, b, c] = a ++ "/" ++ b ++ "/" ++ c := by
  refine location_eq fun h : a ++ "/" ++ b ++ "/" ++ c = "" => ?_
  simp at h

/-- The report on a single entry is about its value or about members of it, and the location of a
member is not that of the value. -/
theorem place_eq_of_location (hi : i ∈ issues (soleEntry s t v))
    (hlocation : Issue.location i.place = s.key ++ "/" ++ t) : i.place = [s.key, t] := by
  have hside : ∀ {s' : Side} {e : Document},
      (Document.ofValue (soleEntry s t v)).field? s'.key = some e →
      s' = s ∧ e = .ofValue (.mapping none false [(.text t, v)]) := by
    intro s' e he
    obtain ⟨w, hw, rfl⟩ := Document.field?_ofMapping_eq_some_iff.mp he
    obtain ⟨hs, rfl⟩ := lastUnder?_singleton_iff.mp hw
    exact ⟨(Side.key_injective hs).symm, rfl⟩
  have hoffends := mem_issues_iff.mp hi
  cases hoffends with
  | root h => exact absurd (by rw [soleEntry, Document.ofValue]) (h _)
  | side s' he hnull htext hfields =>
    obtain ⟨-, rfl⟩ := hside he
    exact absurd (by rw [Document.ofValue]) (hfields _)
  | names s' he hf =>
    obtain ⟨rfl, rfl⟩ := hside he
    obtain ⟨w, hw, -⟩ := Document.field?_ofMapping_eq_some_iff.mp hf
    rw [(lastUnder?_singleton_iff.mp hw).1]
  | @name s' e g t' items n he hf =>
    obtain ⟨rfl, rfl⟩ := hside he
    obtain ⟨w, hw, -⟩ := Document.field?_ofMapping_eq_some_iff.mp hf
    obtain ⟨rfl, -⟩ := lastUnder?_singleton_iff.mp hw
    rw [Issue.location_triple] at hlocation
    have hlength := congrArg String.length hlocation
    have hslash : "/".length = 1 := rfl
    simp only [String.length_append] at hlength
    omega

/-- **Reading and checking a single entry.** The one thing that can be reported of it as a whole is
what its value is, and that is reported exactly if reading passes over the entry, or if the value is
a range. -/
theorem reported_soleEntry_iff (s : Side) (t : String) (v : Value) (i : Issue) :
    (i ∈ issues (soleEntry s t v) ∧ Issue.location i.place = s.key ++ "/" ++ t) ↔
      i = ⟨[s.key, t], .ofValue v, [.string, .array]⟩ ∧
        (propertyNames? v = none ∨ ∃ start stop step, v = .range start stop step) := by
  have hplace : (i ∈ issues (soleEntry s t v) ∧ Issue.location i.place = s.key ++ "/" ++ t) ↔
      i ∈ issues (soleEntry s t v) ∧ i.place = [s.key, t] := by
    refine and_congr_right fun hi => ⟨place_eq_of_location hi, fun h => ?_⟩
    rw [h, Issue.location_pair]
  rw [hplace, ← not_isTextOrRow_iff, soleEntry, mem_issues_names_iff]
  constructor
  · rintro ⟨w, sub, v', hw, hsub, hv, hnot, hi⟩
    obtain ⟨-, rfl⟩ := lastUnder?_singleton_iff.mp hw
    obtain rfl := Option.some.inj hsub
    obtain ⟨-, rfl⟩ := lastUnder?_singleton_iff.mp hv
    exact ⟨hi, hnot⟩
  · rintro ⟨hi, hnot⟩
    exact ⟨_, _, v, lastUnder?_singleton_iff.mpr ⟨rfl, rfl⟩, rfl,
      lastUnder?_singleton_iff.mpr ⟨rfl, rfl⟩, hnot, hi⟩

end

example : propertyNames? (.range 0 3 1) = some [.int 0, .int 1, .int 2] ∧
    issueMessages (soleEntry .excludes "T" (.range 0 3 1)) =
      ["excludes/T: range(0, 3) is not of type 'string', 'array'"] := ⟨rfl, by cbv⟩

end PropertyFilter
