import PropertyFilter.Proofs.Filter.Sameness
import PropertyFilter.Proofs.Filter.Snapshot

/-!
# Filters and the plain values that describe them

The plain value of a filter with text names says all that there is to the filter. A filter can be
made from it again, by its parts or, if the filter came from a configuration, by taking it for a
configuration; and filters are the same just if their plain values are.

## Main definitions

* `NameFilter.IsMade`: a filter that one of the two constructions makes
* `NameFilter.part`: what a plain value holds under a key

## Main results

* `NameFilter.typesOf_described`: rows of names that entries configure configure themselves
* `NameFilter.same_iff_perm`: filters are the same if their global names and their rows are
* `NameFilter.snapshot_roundTrip`: what becomes of the plain value of a filter
-/

namespace PropertyFilter

/-! ## Sets and mappings -/

/-- A row of values that are pairwise different is its own set. -/
theorem distinct_eq_self {vs : List Value} (h : vs.Pairwise fun a b => a.same b = false) :
    distinct vs = vs := by
  induction vs using List.reverseRecOn with
  | nil => rfl
  | append_singleton vs v ih =>
    rw [List.pairwise_append] at h
    have hnew : v.memberOf vs = false := by
      rw [Bool.eq_false_iff, ne_eq, Value.memberOf_iff]
      rintro ⟨w, hw, hsame⟩
      rw [h.2.2 w hw v (List.mem_singleton_self v)] at hsame
      contradiction
    rw [distinct, List.foldl_append, ← distinct, ih h.1, List.foldl_cons, List.foldl_nil,
      insertDistinct, hnew, if_neg (by decide)]

theorem distinct_map_text {names : List String} (h : names.Nodup) :
    distinct (names.map .text) = names.map .text := by
  refine distinct_eq_self ?_
  rw [List.pairwise_map]
  exact h.imp fun hne => by simpa using hne

theorem nodup_distinct (vs : List Value) : (distinct vs).Nodup := by
  refine (distinct_isSetOf vs).pairwise.imp ?_
  rintro a _ hsame rfl
  rw [Value.same_refl] at hsame
  contradiction

/-- A new text key comes in at the end. -/
theorem Entries.insert_text_of_notMem {α : Type} {key : String} (a : α) {es : Entries α}
    (h : .text key ∉ es.map Prod.fst) : insert (.text key) a es = es ++ [(.text key, a)] := by
  refine insert_of_forall_not_same (fun e he => ?_) a
  rw [Bool.eq_false_iff, ne_eq, Value.same_text_right_iff]
  exact fun hk => h (hk ▸ List.mem_map_of_mem he)

/-- Two rows of texts, each once, are the same set if they have the same members. -/
theorem allIn_iff_perm {vs ws : List Value} (hvs : AreTexts vs) (hnodup : vs.Nodup) :
    vs.length = ws.length ∧ Value.allIn vs ws = true ↔ vs.Perm ws := by
  constructor
  · rintro ⟨hlength, hin⟩
    have hsubset : vs ⊆ ws := by
      intro v hv
      obtain ⟨w, hw, hsame⟩ := Value.allIn_iff.mp hin v hv
      obtain ⟨s, rfl⟩ := hvs v hv
      exact Value.same_text_iff.mp hsame ▸ hw
    exact (List.subperm_of_subset hnodup hsubset).perm_of_length_le hlength.ge
  · intro hperm
    refine ⟨hperm.length_eq, Value.allIn_iff.mpr fun v hv => ?_⟩
    exact ⟨v, hperm.mem_iff.mp hv, Value.same_refl v⟩

namespace NameFilter

variable {f g : NameFilter}

/-! ## Filters that have been made -/

/-- A filter that a configuration describes, or that has been put together from parts. -/
inductive IsMade (f : NameFilter) : Prop
  | configured {raw : Value} {defaults : List Value}
    (h : (fromConfiguration raw defaults).outcome = .ok f) : IsMade f
  | ofParts {globalNames namesByType : Option Value}
    (h : ofParts globalNames namesByType = .ok f) : IsMade f

theorem eq_of_make {names : List Value} {rows : Entries (List Value)}
    (h : make names rows = .ok f) : f = ⟨distinct names, rows⟩ := by
  unfold make at h
  split at h
  · exact (Except.ok.inj h).symm
  · contradiction

/-- There are parts to put together where none of the steps before that fails. -/
theorem exists_of_ofParts {globalNames namesByType : Option Value}
    (h : ofParts globalNames namesByType = .ok f) :
    ∃ names entries rows, (globalNames.map Value.members?).getD (some []) = some names ∧
      (namesByType.map Value.entries?).getD (some []) = some entries ∧
      copyRows entries = .ok rows ∧ make names rows = .ok f := by
  unfold ofParts at h
  split at h
  · contradiction
  · next names hnames =>
    split at h
    · contradiction
    · split at h
      · contradiction
      · next entries hentries =>
        split at h
        · contradiction
        · next rows hrows => exact ⟨names, entries, rows, hnames, hentries, hrows, h⟩

/-- Global names are a set. -/
theorem IsMade.nodup (h : f.IsMade) : f.globalNames.Nodup := by
  suffices hmake : ∃ names rows, make names rows = .ok f by
    obtain ⟨names, rows, hmake⟩ := hmake
    rw [eq_of_make hmake]
    exact nodup_distinct names
  cases h with
  | configured h => exact ⟨_, _, h⟩
  | ofParts h =>
    obtain ⟨names, -, rows, -, -, -, hmake⟩ := exists_of_ofParts h
    exact ⟨names, rows, hmake⟩

/-! ## Sameness -/

/-- **Filters are the same** if their global names and their rows are. -/
theorem same_iff_perm (hf : AreTexts f.globalNames) (hnodup : f.globalNames.Nodup) :
    f.same g = true ↔
      f.globalNames.Perm g.globalNames ∧ RowsAlike f.namesByType g.namesByType := by
  rw [same_iff, allIn_iff_perm hf hnodup]

/-- Descriptions of rows are the same if the rows are. -/
theorem same_typesSnapshot_iff :
    f.typesSnapshot.same g.typesSnapshot = true ↔ RowsAlike f.namesByType g.namesByType := by
  simp only [typesSnapshot, RowsAlike, Value.same, Bool.and_eq_true, beq_iff_eq,
    Value.allEntriesIn_iff, List.length_map, List.forall_mem_map]
  simp only [List.mem_map, exists_exists_and_eq_and, Value.same]

/-! ## Descriptions -/

/-- What a plain value holds under a key. -/
def part (d : Value) (key : String) : Value :=
  (Entries.findText? (d.entries?.getD []) key).getD .null

theorem part_global (names : List String) (types : Value) :
    part (described names types) "global" = .list none (names.map .text) := by
  simp [part, described, plainMapping, Entries.findText?_cons]

theorem part_types (names : List String) (types : Value) :
    part (described names types) "types" = types := by
  simp [part, described, plainMapping, Entries.findText?_cons]

theorem sameItems_map_text_iff {names names' : List String} :
    Value.sameItems (names.map .text) (names'.map .text) = true ↔ names = names' := by
  induction names generalizing names' with
  | nil => cases names' <;> simp [Value.sameItems]
  | cons n names ih => cases names' <;> simp [Value.sameItems, ih]

theorem same_described_iff {names names' : List String} {types types' : Value} :
    (described names types).same (described names' types') = true ↔
      names = names' ∧ types.same types' = true := by
  simp [described, plainMapping, Value.same, Value.allEntriesIn, sameItems_map_text_iff]

theorem copyRows_described (rows : Entries (List Value)) :
    copyRows (rows.map fun e => (e.1, .list none e.2)) = .ok rows := by
  induction rows with
  | nil => rfl
  | cons e rows ih => simp [copyRows, Value.members?, ih]

/-- Rows of names under different types are what they configure themselves. -/
theorem typesOf_described {rows : Entries (List Value)} (hnodup : (rows.map Prod.fst).Nodup)
    (hkeys : AreTexts (rows.map Prod.fst)) (hrows : ∀ e ∈ rows, e.2 ≠ []) :
    typesOf (rows.map fun e => (e.1, .list none e.2)) = rows := by
  induction rows using List.reverseRecOn with
  | nil => rfl
  | append_singleton rows e ih =>
    obtain ⟨k, names⟩ := e
    rw [List.map_append, List.nodup_append] at hnodup
    rw [List.map_append, AreTexts, List.forall_mem_append] at hkeys
    rw [List.forall_mem_append] at hrows
    obtain ⟨t, rfl⟩ := hkeys.2 k (by simp)
    have hnames : names ≠ [] := hrows.2 (.text t, names) (by simp)
    have hfate : entryFate (.text t) (.list none names) = .stored t names :=
      entryFate_eq_stored_iff.mpr ⟨rfl, rfl, hnames⟩
    have hnew : .text t ∉ rows.map Prod.fst := by
      intro hmem
      exact hnodup.2.2 _ hmem _ (by simp) rfl
    rw [List.map_append, List.map_singleton, typesOf_snoc, hfate, ih hnodup.1 hkeys.1 hrows.1]
    exact Entries.insert_text_of_notMem names hnew

/-! ## Round trips -/

/-- A filter with text names, put together from the parts of its description. -/
theorem ofParts_described (f : NameFilter) {names : List String} (hnames : names.Nodup) :
    ofParts (some (.list none (names.map .text))) (some f.typesSnapshot) =
      .ok ⟨names.map .text, f.namesByType⟩ := by
  have hhashable := Value.allHashable_map_text names
  simp only [ofParts, typesSnapshot, Option.map_some, Option.getD_some, Value.members?,
    Value.entries?, hhashable, Bool.not_true, Bool.false_eq_true, if_false, copyRows_described,
    make, if_true, distinct_map_text hnames]

/-- A filter that a configuration describes, configured by its description. -/
theorem outcome_fromConfiguration_described {raw : Value} {defaults : List Value}
    (hf : (fromConfiguration raw defaults).outcome = .ok f) {names : List String}
    (hnames : names.Nodup) :
    (fromConfiguration f.typesSnapshot (names.map .text)).outcome =
      .ok ⟨names.map .text, f.namesByType⟩ := by
  have hentries : f.typesSnapshot.entries? =
      some (f.namesByType.map fun e => (e.1, .list none e.2)) := rfl
  have hrows : typesOf (f.namesByType.map fun e => (e.1, .list none e.2)) = f.namesByType := by
    obtain ⟨hnodup, hkeys⟩ := typesOf_keys (raw.entries?.getD [])
    rw [eq_of_make hf, namesByTypeOf_ofValue]
    exact typesOf_described hnodup hkeys (typesOf_rows _)
  rw [outcome_fromConfiguration _ (Value.allHashable_map_text names), configured,
    namesByTypeOf_of_entries hentries, hrows]
  simp [typesSnapshot, Shape.ofValue, globalNamesOf, distinct_map_text hnames]

/-- **Round trips.** A filter with text names has a plain value, which lists the global names in
increasing order. The filter that is put together from the parts of that value is the same, and so
is the one that they configure, if the filter came from a configuration. Two filters with text names
are the same just if their plain values are. -/
theorem snapshot_roundTrip (hf : f.IsMade) (htexts : AreTexts f.globalNames) :
    ∃ d, f.snapshot = .ok d ∧
      (∃ names : List String, part d "global" = .list none (names.map .text) ∧
        names.Pairwise (· < ·)) ∧
      (∃ g, ofParts (some (part d "global")) (some (part d "types")) = .ok g ∧
        g.same f = true) ∧
      (∀ raw defaults, (fromConfiguration raw defaults).outcome = .ok f →
        ∃ listed g, (part d "global").members? = some listed ∧
          (fromConfiguration (part d "types") listed).outcome = .ok g ∧ g.same f = true) ∧
      ∀ g d', g.IsMade → AreTexts g.globalNames → g.snapshot = .ok d' →
        (d.same d' = true ↔ f.same g = true) := by
  obtain ⟨names, hsnapshot, hperm, hincreasing⟩ := exists_snapshot_of_areTexts htexts
  have hsorted := hincreasing hf.nodup
  have hnames : names.Nodup := hsorted.imp ne_of_lt
  have hinjective : Function.Injective Value.text := fun _ _ => Value.text.inj
  have hback : (NameFilter.mk (names.map .text) f.namesByType).same f = true :=
    (same_iff_perm (areTexts_map_text names) (hnames.map hinjective)).mpr ⟨hperm, .refl _⟩
  refine ⟨_, hsnapshot, ⟨names, part_global _ _, hsorted⟩, ⟨_, ?_, hback⟩, ?_, ?_⟩
  · rw [part_global, part_types]
    exact ofParts_described f hnames
  · intro raw defaults hraw
    refine ⟨names.map .text, _, ?_, ?_, hback⟩
    · rw [part_global]
      rfl
    · rw [part_types]
      exact outcome_fromConfiguration_described hraw hnames
  · intro g d' hg hgtexts hd'
    obtain ⟨names', hsnapshot', hperm', hincreasing'⟩ := exists_snapshot_of_areTexts hgtexts
    obtain rfl := Except.ok.inj (hd'.symm.trans hsnapshot')
    rw [same_described_iff, same_iff_perm htexts hf.nodup, same_typesSnapshot_iff]
    refine and_congr_left fun _ => ⟨?_, fun hglobal => ?_⟩
    · rintro rfl
      exact hperm.symm.trans hperm'
    · have htexts' := hperm.trans (hglobal.trans hperm'.symm)
      exact eq_of_perm_of_increasing hsorted (hincreasing' hg.nodup)
        ((List.map_perm_map_iff hinjective).mp htexts')

/-- Two filters made in different ways, with their global names in another order, are the same since
their plain values are. -/
theorem snapshot_roundTrip_reordered :
    ∃ (f g : NameFilter) (d d' : Value),
      (fromConfiguration (.mapping none false [(.text "User", .text "b, a")])
        [.text "z", .text "y"]).outcome = .ok f ∧
      ofParts (some (.list none [.text "y", .text "z", .text "y"]))
        (some (.mapping none true [(.text "User", .tuple none [.text "b", .text "a"])])) = .ok g ∧
      f.snapshot = .ok d ∧ g.snapshot = .ok d' ∧ d.same d' = true ∧ f.same g = true := by
  have hf : (fromConfiguration (.mapping none false [(.text "User", .text "b, a")])
      [.text "z", .text "y"]).outcome =
        .ok ⟨[.text "z", .text "y"], [(.text "User", [.text "b", .text "a"])]⟩ := by cbv
  have hg : ofParts (some (.list none [.text "y", .text "z", .text "y"]))
      (some (.mapping none true [(.text "User", .tuple none [.text "b", .text "a"])])) =
        .ok ⟨[.text "y", .text "z"], [(.text "User", [.text "b", .text "a"])]⟩ := by cbv
  obtain ⟨d, hd, -, -, -, hsame⟩ := snapshot_roundTrip (.configured hf) (by simp [AreTexts])
  obtain ⟨d', hd', -⟩ := snapshot_roundTrip (.ofParts hg) (by simp [AreTexts])
  have hfilters : (NameFilter.mk [.text "z", .text "y"]
      [(.text "User", [.text "b", .text "a"])]).same
        ⟨[.text "y", .text "z"], [(.text "User", [.text "b", .text "a"])]⟩ = true := by cbv
  exact ⟨_, _, d, d', hf, hg, hd, hd',
    (hsame _ _ (.ofParts hg) (by simp [AreTexts]) hd').mpr hfilters, hfilters⟩

end NameFilter

end PropertyFilter
