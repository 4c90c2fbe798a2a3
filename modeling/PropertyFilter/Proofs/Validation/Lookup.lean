import Mathlib.Data.List.Induction
import PropertyFilter.Validation.Document

/-!
# Documents by look-up

The document of a mapping holds, under every text, the document of the last value whose key becomes
that text. Keys are pairwise different at every depth, so that a document is known by its look-ups.

## Main definitions

* `Document.lastUnder? entries t`: the value of the last entry whose key becomes `t`
* `Document.KeysDistinct d`: the keys of `d` are pairwise different at every depth

## Main results

* `Document.induction`: induction over documents
* `field?_ofEntries`: what a look-up finds in the document of a mapping
* `keysDistinct_ofValue`: documents of values have pairwise different keys
* `mem_iff_field?`: in a document with different keys, an entry is what a look-up finds
-/

namespace PropertyFilter

namespace Document

/-- **Induction over documents**: a property that passes from the items of a row to the row and from
the fields of a mapping to the mapping holds of all documents. -/
@[elab_as_elim]
theorem induction {motive : Document → Prop} (leaf : ∀ v, motive (.leaf v))
    (row : ∀ items, (∀ d ∈ items, motive d) → motive (.row items))
    (fields : ∀ entries, (∀ e ∈ entries, motive e.2) → motive (.fields entries)) :
    ∀ d, motive d
  | .leaf v => leaf v
  | .row items => row items fun d _ => induction leaf row fields d
  | .fields entries => fields entries fun e _ => induction leaf row fields e.2
termination_by d => sizeOf d
decreasing_by
  · next hd =>
    have := List.sizeOf_lt_of_mem hd
    simp only [Document.row.sizeOf_spec]
    omega
  · next he =>
    have := List.sizeOf_lt_of_mem he
    have : sizeOf e.2 < sizeOf e := by
      cases e
      simp only [Prod.mk.sizeOf_spec]
      omega
    simp only [Document.fields.sizeOf_spec]
    omega

/-! ## Fields -/

theorem field?_cons (key k : String) (d : Document) (entries : List (String × Document)) :
    (fields ((k, d) :: entries)).field? key =
      if k = key then some d else (fields entries).field? key := by
  by_cases h : k = key <;> simp [field?, h]

/-- An insertion changes what is found under its key, and nothing else. -/
theorem field?_insert (key other : String) (d : Document) (entries : List (String × Document)) :
    (fields (insert key d entries)).field? other =
      if key = other then some d else (fields entries).field? other := by
  induction entries with
  | nil => rw [insert, field?_cons]
  | cons e entries ih =>
    obtain ⟨k, b⟩ := e
    unfold insert
    split
    · next hk =>
      subst hk
      by_cases h : k = other <;> simp [field?_cons, h]
    · next hk =>
      rw [field?_cons, field?_cons, ih]
      by_cases h : key = other
      · subst h
        simp [hk]
      · simp [h]

theorem mem_insert {key : String} {d : Document} {entries : List (String × Document)}
    {e : String × Document} (h : e ∈ insert key d entries) : e = (key, d) ∨ e ∈ entries := by
  induction entries with
  | nil => simpa [insert] using h
  | cons b entries ih =>
    unfold insert at h
    split at h
    · next hk =>
      subst hk
      rcases List.mem_cons.mp h with h | h
      · exact .inl h
      · exact .inr (List.mem_cons_of_mem _ h)
    · rcases List.mem_cons.mp h with h | h
      · exact .inr (h ▸ List.mem_cons_self)
      · exact (ih h).imp_right (List.mem_cons_of_mem _)

theorem nodup_keys_insert (key : String) (d : Document) {entries : List (String × Document)}
    (h : (entries.map Prod.fst).Nodup) : ((insert key d entries).map Prod.fst).Nodup := by
  induction entries with
  | nil => simp [insert]
  | cons b entries ih =>
    rw [List.map_cons, List.nodup_cons] at h
    unfold insert
    split
    · next hk =>
      rw [List.map_cons, List.nodup_cons]
      exact h
    · next hk =>
      rw [List.map_cons, List.nodup_cons]
      refine ⟨fun hmem => ?_, ih h.2⟩
      obtain ⟨e, he, hek⟩ := List.mem_map.mp hmem
      rcases mem_insert he with rfl | he
      · exact hk hek.symm
      · exact h.1 (hek ▸ List.mem_map_of_mem he)

/-- Where keys are pairwise different, a look-up finds every entry. -/
theorem mem_iff_field? {entries : List (String × Document)} (h : (entries.map Prod.fst).Nodup)
    {key : String} {d : Document} :
    (key, d) ∈ entries ↔ (fields entries).field? key = some d := by
  induction entries with
  | nil => simp [field?]
  | cons b entries ih =>
    obtain ⟨k, e⟩ := b
    rw [List.map_cons, List.nodup_cons] at h
    rw [field?_cons, List.mem_cons, ih h.2]
    by_cases hk : k = key
    · subst hk
      rw [if_pos rfl, Prod.mk.injEq, Option.some.injEq]
      constructor
      · rintro (⟨-, rfl⟩ | hmem)
        · rfl
        · exact absurd (List.mem_map_of_mem ((ih h.2).mpr hmem)) h.1
      · rintro rfl
        exact .inl ⟨rfl, rfl⟩
    · rw [if_neg hk]
      simp [Ne.symm hk]

/-! ## Documents of values -/

theorem ofItems_eq_map (items : List Value) : ofItems items = items.map ofValue := by
  induction items with
  | nil => simp [ofItems]
  | cons v items ih => simp [ofItems, ih]

theorem ofEntries_snoc (acc : List (String × Document)) (entries : List (Value × Value))
    (e : Value × Value) :
    ofEntries acc (entries ++ [e]) =
      insert (keyText e.1) (ofValue e.2) (ofEntries acc entries) := by
  induction entries generalizing acc with
  | nil => simp [ofEntries]
  | cons b entries ih => simp [ofEntries, ih]

/-- The value of the last entry whose key becomes a text. -/
def lastUnder? (entries : List (Value × Value)) (t : String) : Option Value :=
  (entries.reverse.find? fun e => keyText e.1 == t).map Prod.snd

@[simp] theorem lastUnder?_nil (t : String) : lastUnder? [] t = none := rfl

theorem lastUnder?_snoc (entries : List (Value × Value)) (e : Value × Value) (t : String) :
    lastUnder? (entries ++ [e]) t =
      if keyText e.1 = t then some e.2 else lastUnder? entries t := by
  by_cases h : keyText e.1 = t <;> simp [lastUnder?, h]

theorem lastUnder?_append (before after : List (Value × Value)) (t : String) :
    lastUnder? (before ++ after) t = (lastUnder? after t).or (lastUnder? before t) := by
  induction after using List.reverseRecOn with
  | nil => simp
  | append_singleton after e ih =>
    rw [← List.append_assoc, lastUnder?_snoc, lastUnder?_snoc, ih]
    split <;> rfl

theorem lastUnder?_cons (e : Value × Value) (entries : List (Value × Value)) (t : String) :
    lastUnder? (e :: entries) t =
      (lastUnder? entries t).or (if keyText e.1 = t then some e.2 else none) := by
  rw [← List.singleton_append, lastUnder?_append, ← List.nil_append [e], lastUnder?_snoc,
    lastUnder?_nil]

/-- **The last value under a text** is what the document of a mapping holds under it. -/
theorem field?_ofEntries (entries : List (Value × Value)) (t : String) :
    (fields (ofEntries [] entries)).field? t = (lastUnder? entries t).map ofValue := by
  induction entries using List.reverseRecOn with
  | nil => simp [ofEntries, field?]
  | append_singleton entries e ih =>
    rw [ofEntries_snoc, field?_insert, lastUnder?_snoc, ih]
    split <;> rfl

/-- The keys of a document are pairwise different at every depth. -/
inductive KeysDistinct : Document → Prop where
  | leaf (v : Value) : KeysDistinct (.leaf v)
  | row {items : List Document} (h : ∀ d ∈ items, KeysDistinct d) : KeysDistinct (.row items)
  | fields {entries : List (String × Document)} (hkeys : (entries.map Prod.fst).Nodup)
      (h : ∀ e ∈ entries, KeysDistinct e.2) : KeysDistinct (.fields entries)

theorem KeysDistinct.of_field? {d e : Document} (hd : d.KeysDistinct) {key : String}
    (h : d.field? key = some e) : e.KeysDistinct := by
  cases hd with
  | @fields entries hkeys hentries => exact hentries _ ((mem_iff_field? hkeys).mpr h)
  | _ => simp at h

mutual

/-- Documents of values have pairwise different keys. -/
theorem keysDistinct_ofValue : ∀ v, (ofValue v).KeysDistinct
  | .mapping _ _ entries => by
    obtain ⟨hkeys, h⟩ := keysDistinct_ofEntries entries [] (by simp) (by simp)
    simp only [ofValue]
    exact .fields hkeys h
  | .list _ items | .tuple _ items | .set _ _ items => by
    simp only [ofValue]
    exact .row (keysDistinct_ofItems items)
  | .null | .bool _ | .int _ | .float _ | .text _ | .octets .. | .range .. | .type ..
  | .object .. | .date .. | .moment .. | .clock .. => by
    simp only [ofValue]
    exact .leaf _

theorem keysDistinct_ofItems : ∀ items, ∀ d ∈ ofItems items, d.KeysDistinct
  | [] => by simp [ofItems]
  | v :: items => by
    simp only [ofItems, List.forall_mem_cons]
    exact ⟨keysDistinct_ofValue v, keysDistinct_ofItems items⟩

theorem keysDistinct_ofEntries : ∀ (entries : List (Value × Value))
    (acc : List (String × Document)), (acc.map Prod.fst).Nodup → (∀ e ∈ acc, e.2.KeysDistinct) →
    ((ofEntries acc entries).map Prod.fst).Nodup ∧ ∀ e ∈ ofEntries acc entries, e.2.KeysDistinct
  | [], acc, hkeys, h => by
    simp only [ofEntries]
    exact ⟨hkeys, h⟩
  | (k, v) :: entries, acc, hkeys, h => by
    simp only [ofEntries]
    refine keysDistinct_ofEntries entries _ (nodup_keys_insert _ _ hkeys) fun e he => ?_
    rcases mem_insert he with rfl | he
    · exact keysDistinct_ofValue v
    · exact h e he

end

theorem nodup_keys_ofEntries (entries : List (Value × Value)) :
    ((ofEntries [] entries).map Prod.fst).Nodup :=
  (keysDistinct_ofEntries entries [] (by simp) (by simp)).1

end Document

end PropertyFilter
