import PropertyFilter.Proofs.Validation.Places

/-!
# The report on a configuration

Which places of a document offend against the shape of a configuration can be said by look-ups
alone, without schemas. The report on a configuration is the list of these places in their order,
each once.

## Main definitions

* `Offends d i`: the document `d` of a configuration offends at the place of `i`

## Main results

* `mem_configurationSchema_issues`: what the schema reports is what offends
* `mem_issues_iff`: what the report on a configuration holds
* `pairwise_lt_issues`: the report is strictly ordered by place
-/

namespace PropertyFilter

open Document (field?)

/-! ## What offends -/

/-- A document offends against the shape of a configuration: as a whole, if it is not a mapping; at
a side that is there, if it is neither nothing nor a text nor a mapping; at the names of a type, if
they are neither a text nor a row; and at a single name that is not a text. -/
inductive Offends (d : Document) : Issue → Prop where
  | root (h : ∀ entries, d ≠ .fields entries) : Offends d ⟨[], d, [.object]⟩
  | side (s : Side) {e : Document} (he : d.field? s.key = some e) (hnull : e ≠ .leaf .null)
      (htext : ∀ t, e ≠ .leaf (.text t)) (hfields : ∀ entries, e ≠ .fields entries) :
      Offends d ⟨[s.key], e, [.null, .string, .object]⟩
  | names (s : Side) {e f : Document} {t : String} (he : d.field? s.key = some e)
      (hf : e.field? t = some f) (htext : ∀ t, f ≠ .leaf (.text t))
      (hrow : ∀ items, f ≠ .row items) : Offends d ⟨[s.key, t], f, [.string, .array]⟩
  | name (s : Side) {e g : Document} {t : String} {items : List Document} {n : Nat}
      (he : d.field? s.key = some e) (hf : e.field? t = some (.row items))
      (hg : items[n]? = some g) (htext : ∀ t, g ≠ .leaf (.text t)) :
      Offends d ⟨[s.key, t, toString n], g, [.string]⟩

namespace Kind

theorem null_admits_eq_false {d : Document} : null.admits d = false ↔ d ≠ .leaf .null := by
  rcases d with entries | items | v
  · simp [admits]
  · simp [admits]
  · cases v <;> simp [admits]

theorem string_admits_eq_false {d : Document} :
    string.admits d = false ↔ ∀ t, d ≠ .leaf (.text t) := by
  rcases d with entries | items | v
  · simp [admits]
  · simp [admits]
  · cases v <;> simp [admits]

theorem array_admits_eq_false {d : Document} :
    array.admits d = false ↔ ∀ items, d ≠ .row items := by
  rcases d with entries | items | v <;> simp [admits]

theorem object_admits_eq_false {d : Document} :
    object.admits d = false ↔ ∀ entries, d ≠ .fields entries := by
  rcases d with entries | items | v <;> simp [admits]

end Kind

section

variable {place : List String} {d : Document} {i : Issue}

theorem mem_nameSchema_issues :
    i ∈ nameSchema.issues place d ↔ i = ⟨place, d, [.string]⟩ ∧ ∀ t, d ≠ .leaf (.text t) := by
  rw [Schema.mem_issues]
  simp [nameSchema, Kind.string_admits_eq_false]

theorem mem_namesSchema_issues :
    i ∈ namesSchema.issues place d ↔
      (i = ⟨place, d, [.string, .array]⟩ ∧ (∀ t, d ≠ .leaf (.text t)) ∧
        ∀ items, d ≠ .row items) ∨
      ∃ items, d = .row items ∧ ∃ (n : Nat) (e : Document), items[n]? = some e ∧
        i = ⟨place ++ [toString n], e, [.string]⟩ ∧ ∀ t, e ≠ .leaf (.text t) := by
  rw [Schema.mem_issues]
  simp [namesSchema, mem_nameSchema_issues, Kind.string_admits_eq_false,
    Kind.array_admits_eq_false]

theorem mem_sideSchema_issues (hd : d.KeysDistinct) :
    i ∈ sideSchema.issues place d ↔
      (i = ⟨place, d, [.null, .string, .object]⟩ ∧ d ≠ .leaf .null ∧
        (∀ t, d ≠ .leaf (.text t)) ∧ ∀ entries, d ≠ .fields entries) ∨
      ∃ t e, d.field? t = some e ∧ i ∈ namesSchema.issues (place ++ [t]) e := by
  rw [Schema.mem_issues]
  simp only [sideSchema, Kind.null_admits_eq_false, Kind.string_admits_eq_false,
    Kind.object_admits_eq_false, List.forall_mem_cons, List.not_mem_nil, false_and, exists_false,
    false_or, or_false, Option.mem_some_iff, exists_eq_left', List.map_nil, not_false_eq_true,
    true_and, false_implies, implies_true, and_true, Option.not_mem_none]
  refine or_congr_right ⟨?_, ?_⟩
  · rintro ⟨entries, rfl, ⟨t, e⟩, he, hi⟩
    cases hd with
    | fields hkeys _ => exact ⟨t, e, (Document.mem_iff_field? hkeys).mp he, hi⟩
  · rintro ⟨t, e, he, hi⟩
    cases hd with
    | fields hkeys _ => exact ⟨_, rfl, (t, e), (Document.mem_iff_field? hkeys).mpr he, hi⟩
    | _ => simp at he

theorem mem_configurationSchema_issues_iff :
    i ∈ configurationSchema.issues [] d ↔
      (i = ⟨[], d, [.object]⟩ ∧ ∀ entries, d ≠ .fields entries) ∨
      ∃ (s : Side) (e : Document), d.field? s.key = some e ∧ i ∈ sideSchema.issues [s.key] e := by
  rw [Schema.mem_issues]
  simp only [configurationSchema, Kind.object_admits_eq_false, List.not_mem_nil, forall_eq,
    Option.not_mem_none, false_and, exists_false, or_false, List.mem_cons, exists_eq_or_imp,
    exists_eq_left, List.nil_append]
  refine or_congr_right ⟨?_, ?_⟩
  · rintro (⟨e, he, hi⟩ | ⟨e, he, hi⟩)
    · exact ⟨.excludes, e, he, hi⟩
    · exact ⟨.includes, e, he, hi⟩
  · rintro ⟨s, e, he, hi⟩
    cases s with
    | excludes => exact .inl ⟨e, he, hi⟩
    | includes => exact .inr ⟨e, he, hi⟩

/-- **The schema of configurations reports what offends.** -/
theorem mem_configurationSchema_issues (hd : d.KeysDistinct) :
    i ∈ configurationSchema.issues [] d ↔ Offends d i := by
  rw [mem_configurationSchema_issues_iff]
  constructor
  · rintro (⟨rfl, h⟩ | ⟨s, e, he, hi⟩)
    · exact .root h
    rcases (mem_sideSchema_issues (hd.of_field? he)).mp hi with ⟨rfl, hnull, htext, hfields⟩ |
      ⟨t, f, hf, hi⟩
    · exact .side s he hnull htext hfields
    rcases mem_namesSchema_issues.mp hi with ⟨rfl, htext, hrow⟩ | ⟨items, rfl, n, g, hg, rfl, htext⟩
    · exact .names s he hf htext hrow
    · exact .name s he hf hg htext
  · intro h
    cases h with
    | root h => exact .inl ⟨rfl, h⟩
    | side s he hnull htext hfields =>
      refine .inr ⟨s, _, he, (mem_sideSchema_issues (hd.of_field? he)).mpr (.inl ?_)⟩
      exact ⟨rfl, hnull, htext, hfields⟩
    | names s he hf htext hrow =>
      refine .inr ⟨s, _, he, (mem_sideSchema_issues (hd.of_field? he)).mpr (.inr ⟨_, _, hf, ?_⟩)⟩
      exact mem_namesSchema_issues.mpr (.inl ⟨rfl, htext, hrow⟩)
    | name s he hf hg htext =>
      refine .inr ⟨s, _, he, (mem_sideSchema_issues (hd.of_field? he)).mpr (.inr ⟨_, _, hf, ?_⟩)⟩
      exact mem_namesSchema_issues.mpr (.inr ⟨_, rfl, _, _, hg, rfl, htext⟩)

end

/-! ## The report -/

theorem keysDistinct_configurationSchema : configurationSchema.KeysDistinct := by
  have hname : nameSchema.KeysDistinct := .mk (by simp) (by simp) (by simp) (by simp)
  have hnames : namesSchema.KeysDistinct := .mk (by simp) (by simp) (by simp) (by simpa)
  have hside : sideSchema.KeysDistinct := .mk (by simp) (by simp) (by simpa) (by simp)
  exact .mk (by decide) (by simp [hside]) (by simp) (by simp)

/-- The report holds what offends. -/
theorem mem_issues_iff {c : Value} {i : Issue} :
    i ∈ issues c ↔ Offends (Document.ofValue c) i := by
  rw [issues, List.mem_mergeSort]
  exact mem_configurationSchema_issues (Document.keysDistinct_ofValue c)

/-- **The report is strictly ordered by place**: sorting leaves no place after another one that it
precedes, and no place occurs twice. -/
theorem pairwise_lt_issues (c : Value) : (issues c).Pairwise fun a b => a.place < b.place := by
  have hle : (issues c).Pairwise fun a b => Issue.before a b = true := by
    refine List.pairwise_mergeSort (fun a b c hab hbc => ?_) (fun a b => ?_) _
    · simp only [Issue.before, Bool.not_eq_true', decide_eq_false_iff_not, not_lt] at hab hbc ⊢
      exact hab.trans hbc
    · simp only [Issue.before, Bool.or_eq_true, Bool.not_eq_true', decide_eq_false_iff_not, not_lt]
      exact le_total a.place b.place
  -- sorting keeps places different, so the order is strict
  have hne : (issues c).Pairwise Schema.Apart := by
    refine (List.mergeSort_perm _ _).symm.pairwise ?_ Ne.symm
    exact Schema.pairwise_issues keysDistinct_configurationSchema (Document.keysDistinct_ofValue c)
  refine hle.imp₂ (fun a b hab hne => ?_) hne
  simp only [Issue.before, Bool.not_eq_true', decide_eq_false_iff_not, not_lt] at hab
  exact lt_of_le_of_ne hab hne

end PropertyFilter
