import PropertyFilter.Proofs.Validation.Report

/-!
# Configurations with rearranged entries

Two entries of a mapping whose keys become different texts may change places: the documents have the
same fields, so the same places offend, and since reports are ordered by place, they name the same
places in the same order. Entries whose keys become the same text may not, as the later one of them
decides.

## Main definitions

* `PlacesAmong d e`: every schema reports for `d` only places that it reports for `e`
* `Rearranged c c'`: `c'` is `c` with the entries of mappings in another order, at any depth

## Main results

* `Rearranged.placesAmong`: rearranging entries adds no place
* `Rearranged.places_issues`: the reports of rearranged configurations name the same places
* `issues_exact`: the exact report on a configuration
-/

namespace PropertyFilter

/-! ## Rearranged entries -/

/-- Every schema reports for the one document only places that it also reports for the other. -/
def PlacesAmong (d e : Document) : Prop :=
  ∀ (s : Schema) (place : List String), ∀ i ∈ s.issues place d,
    ∃ j ∈ s.issues place e, j.place = i.place

theorem placesAmong_fields {entries others : List (String × Document)}
    (hentries : (entries.map Prod.fst).Nodup) (hothers : (others.map Prod.fst).Nodup)
    (h : ∀ k d, (Document.fields entries).field? k = some d →
      ∃ e, (Document.fields others).field? k = some e ∧ PlacesAmong d e) :
    PlacesAmong (.fields entries) (.fields others) := by
  intro s place i hi
  rcases Schema.mem_issues.mp hi with ⟨rfl, hkinds⟩ | ⟨f, hf, d, hd, hi⟩ |
    ⟨o, ho, _, heq, ⟨k, d⟩, hmem, hknown, hi⟩ | ⟨o, ho, _, hrow, -⟩
  · refine ⟨_, Schema.mem_issues.mpr (.inl ⟨rfl, fun k hk => ?_⟩), rfl⟩
    have := hkinds k hk
    cases k <;> simp_all [Kind.admits]
  · obtain ⟨e, he, hde⟩ := h f.1 d hd
    obtain ⟨j, hj, hplace⟩ := hde _ _ i hi
    exact ⟨j, Schema.mem_issues.mpr (.inr (.inl ⟨f, hf, e, he, hj⟩)), hplace⟩
  · obtain rfl := Document.fields.inj heq
    obtain ⟨e, he, hde⟩ := h k d ((Document.mem_iff_field? hentries).mp hmem)
    obtain ⟨j, hj, hplace⟩ := hde _ _ i hi
    have hmem' := (Document.mem_iff_field? hothers).mpr he
    exact ⟨j, Schema.mem_issues.mpr
      (.inr (.inr (.inl ⟨o, ho, _, rfl, _, hmem', hknown, hj⟩))), hplace⟩
  · contradiction

theorem placesAmong_row {before after : List Document} {d e : Document} (h : PlacesAmong d e) :
    PlacesAmong (.row (before ++ d :: after)) (.row (before ++ e :: after)) := by
  intro s place i hi
  rcases Schema.mem_issues.mp hi with ⟨rfl, hkinds⟩ | ⟨f, hf, d, hd, -⟩ | ⟨o, ho, _, heq, -⟩ |
    ⟨o, ho, _, heq, n, b, hb, hi'⟩
  · refine ⟨_, Schema.mem_issues.mpr (.inl ⟨rfl, fun k hk => ?_⟩), rfl⟩
    have := hkinds k hk
    cases k <;> simp_all [Kind.admits]
  · simp at hd
  · contradiction
  · obtain rfl := Document.row.inj heq
    have hn : (n = before.length ∧ b = d) ∨ (before ++ e :: after)[n]? = some b := by grind
    rcases hn with ⟨rfl, rfl⟩ | hb'
    · obtain ⟨j, hj, hplace⟩ := h _ _ i hi'
      refine ⟨j, Schema.mem_issues.mpr (.inr (.inr (.inr ⟨o, ho, _, rfl, _, e, ?_, hj⟩))), hplace⟩
      simp
    · exact ⟨i, Schema.mem_issues.mpr (.inr (.inr (.inr ⟨o, ho, _, rfl, n, b, hb', hi'⟩))), rfl⟩

namespace PlacesAmong

theorem refl (d : Document) : PlacesAmong d d := fun _ _ i hi => ⟨i, hi, rfl⟩

theorem trans {d e f : Document} (h : PlacesAmong d e) (h' : PlacesAmong e f) :
    PlacesAmong d f := by
  intro s place i hi
  obtain ⟨j, hj, hij⟩ := h s place i hi
  obtain ⟨k, hk, hjk⟩ := h' s place j hj
  exact ⟨k, hk, hjk.trans hij⟩

/-- The documents of two mappings, compared by the last values under every text. -/
theorem ofEntries {entries others : List (Value × Value)}
    (h : ∀ t v, Document.lastUnder? entries t = some v →
      ∃ w, Document.lastUnder? others t = some w ∧
        PlacesAmong (Document.ofValue v) (Document.ofValue w)) :
    PlacesAmong (.fields (Document.ofEntries [] entries))
      (.fields (Document.ofEntries [] others)) := by
  refine placesAmong_fields (Document.nodup_keys_ofEntries _) (Document.nodup_keys_ofEntries _)
    fun t d hd => ?_
  rw [Document.field?_ofEntries] at hd
  obtain ⟨v, hv, rfl⟩ := Option.map_eq_some_iff.mp hd
  obtain ⟨w, hw, hvw⟩ := h t v hv
  exact ⟨Document.ofValue w, by rw [Document.field?_ofEntries, hw]; rfl, hvw⟩

/-- The documents of two rows, compared by one item. -/
theorem ofItems (before after : List Value) {v w : Value}
    (h : PlacesAmong (Document.ofValue v) (Document.ofValue w)) :
    PlacesAmong (.row (Document.ofItems (before ++ v :: after)))
      (.row (Document.ofItems (before ++ w :: after))) := by
  simp only [Document.ofItems_eq_map, List.map_append, List.map_cons]
  exact placesAmong_row h

end PlacesAmong

/-- A configuration with the entries of its mappings in another order, at any depth: entries whose
keys become different texts may change places. -/
inductive Rearranged : Value → Value → Prop where
  | refl (c : Value) : Rearranged c c
  | trans {c c' c'' : Value} (h : Rearranged c c') (h' : Rearranged c' c'') : Rearranged c c''
  | swap {label : Option Label} {view : Bool} (before after : List (Value × Value))
      {e f : Value × Value} (h : Document.keyText e.1 ≠ Document.keyText f.1) :
      Rearranged (.mapping label view (before ++ e :: f :: after))
        (.mapping label view (before ++ f :: e :: after))
  | entry {label : Option Label} {view : Bool} (before after : List (Value × Value)) (key : Value)
      {v w : Value} (h : Rearranged v w) :
      Rearranged (.mapping label view (before ++ (key, v) :: after))
        (.mapping label view (before ++ (key, w) :: after))
  | list {label : Option Label} (before after : List Value) {v w : Value} (h : Rearranged v w) :
      Rearranged (.list label (before ++ v :: after)) (.list label (before ++ w :: after))
  | tuple {label : Option Label} (before after : List Value) {v w : Value} (h : Rearranged v w) :
      Rearranged (.tuple label (before ++ v :: after)) (.tuple label (before ++ w :: after))
  | set {label : Option Label} {frozen : Bool} (before after : List Value) {v w : Value}
      (h : Rearranged v w) :
      Rearranged (.set label frozen (before ++ v :: after))
        (.set label frozen (before ++ w :: after))

namespace Rearranged

theorem symm {c c' : Value} (h : Rearranged c c') : Rearranged c' c := by
  induction h with
  | refl c => exact .refl c
  | trans _ _ ih ih' => exact .trans ih' ih
  | swap before after h => exact .swap before after h.symm
  | entry before after key _ ih => exact .entry before after key ih
  | list before after _ ih => exact .list before after ih
  | tuple before after _ ih => exact .tuple before after ih
  | set before after _ ih => exact .set before after ih

/-- **Rearranging entries adds no place** at which something is reported. -/
theorem placesAmong {c c' : Value} (h : Rearranged c c') :
    PlacesAmong (Document.ofValue c) (Document.ofValue c') := by
  induction h with
  | refl c => exact .refl _
  | trans _ _ ih ih' => exact ih.trans ih'
  | @swap label view before after e f hne =>
    simp only [Document.ofValue]
    refine .ofEntries fun t v hv => ⟨v, ?_, .refl _⟩
    simp only [Document.lastUnder?_append, Document.lastUnder?_cons] at hv ⊢
    by_cases he : Document.keyText e.1 = t
    · have hf : Document.keyText f.1 ≠ t := fun hf => hne (he.trans hf.symm)
      simpa [he, hf] using hv
    · simpa [he] using hv
  | @entry label view before after key v w _ ih =>
    simp only [Document.ofValue]
    refine .ofEntries fun t u hu => ?_
    simp only [Document.lastUnder?_append, Document.lastUnder?_cons] at hu ⊢
    -- the entry counts only if no later one is under `t`
    cases hafter : Document.lastUnder? after t with
    | some x =>
      rw [hafter] at hu
      exact ⟨u, by simpa using hu, .refl _⟩
    | none =>
      rw [hafter] at hu
      by_cases hkey : Document.keyText key = t
      · obtain rfl : v = u := by simpa [hkey] using hu
        exact ⟨w, by simp [hkey], ih⟩
      · exact ⟨u, by simpa [hkey] using hu, .refl _⟩
  | list before after _ ih | tuple before after _ ih | set before after _ ih =>
    simp only [Document.ofValue]
    exact .ofItems before after ih

theorem places_subset {c c' : Value} (h : Rearranged c c') {p : List String}
    (hp : p ∈ (issues c).map Issue.place) : p ∈ (issues c').map Issue.place := by
  obtain ⟨i, hi, rfl⟩ := List.mem_map.mp hp
  rw [issues, List.mem_mergeSort] at hi
  obtain ⟨j, hj, hplace⟩ := h.placesAmong _ _ i hi
  refine List.mem_map.mpr ⟨j, ?_, hplace⟩
  rwa [issues, List.mem_mergeSort]

/-- **Reports do not depend on the order of entries.** -/
theorem places_issues {c c' : Value} (h : Rearranged c c') :
    (issues c').map Issue.place = (issues c).map Issue.place := by
  have hsorted : ∀ c, ((issues c).map Issue.place).Pairwise (· < ·) := fun c =>
    List.pairwise_map.mpr (pairwise_lt_issues c)
  exact (hsorted c').eq_of_mem_iff (hsorted c) fun p => ⟨h.symm.places_subset, h.places_subset⟩

end Rearranged

/-- **The exact report on a configuration.** The messages are those of the issues; there is an issue
for every place at which the document of the configuration offends, and no other; the issues are
strictly ordered by place; and rearranging the entries of mappings leaves their places as they
are. -/
theorem issues_exact (c : Value) :
    issueMessages c = (issues c).map Issue.message ∧
      (∀ i, i ∈ issues c ↔ Offends (Document.ofValue c) i) ∧
      (issues c).Pairwise (fun a b => a.place < b.place) ∧
      ∀ c', Rearranged c c' → (issues c').map Issue.place = (issues c).map Issue.place :=
  ⟨rfl, fun _ => mem_issues_iff, pairwise_lt_issues c, fun _ h => h.places_issues⟩

/-- A wrong side is reported wherever it stands in the mapping. -/
theorem issues_exact_swapped :
    ∃ c c', Rearranged c c' ∧
      c = .mapping none false [(.text "includes", .int 42), (.text "excludes", .mapping none false
        [(.text "User", .list none [.int 1])])] ∧
      ⟨["includes"], .leaf (.int 42), [.null, .string, .object]⟩ ∈ issues c ∧
      ["includes"] ∈ (issues c').map Issue.place := by
  let sides : List (Value × Value) := [(.text "includes", .int 42), (.text "excludes",
    .mapping none false [(.text "User", .list none [.int 1])])]
  have hswap : Rearranged (.mapping none false sides) (.mapping none false sides.reverse) :=
    .swap [] [] (by decide)
  obtain ⟨-, hmem, -, hplaces⟩ := issues_exact (.mapping none false sides)
  have hincludes := (hmem _).mpr (.side .includes rfl (by simp [Document.ofValue])
    (by simp [Document.ofValue]) (by simp [Document.ofValue]))
  refine ⟨_, _, hswap, rfl, hincludes, ?_⟩
  rw [hplaces _ hswap]
  exact List.mem_map.mpr ⟨_, hincludes, rfl⟩

end PropertyFilter
