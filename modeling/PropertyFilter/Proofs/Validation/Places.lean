import Mathlib
import PropertyFilter.Proofs.Validation.Lookup
import PropertyFilter.Validation.Schema

/-!
# Places of issues

What a schema reports at a place is either the place itself, or lies below one of its fields or
items. Places below different fields or items are different, so no place is reported twice.

## Main definitions

* `Schema.KeysDistinct s`: the known fields of `s` have different keys at every depth

## Main results

* `Schema.induction`: induction over schemas
* `Schema.mem_issues`: what is reported at a place, and what below
* `Schema.prefix_of_mem_issues`: issues lie at the place that is checked, or below
* `Schema.pairwise_issues`: no place is reported twice
-/

namespace PropertyFilter

namespace Schema

variable {place : List String} {d : Document} {i : Issue}

/-- **Induction over schemas**: a property that passes from the schemas of all fields and of the
items to the schema of the whole holds of all schemas. -/
@[elab_as_elim]
theorem induction {motive : Schema → Prop}
    (step : ∀ kinds fields others items, (∀ f ∈ fields, motive f.2) → (∀ s ∈ others, motive s) →
      (∀ s ∈ items, motive s) → motive ⟨kinds, fields, others, items⟩) : ∀ s, motive s
  | ⟨kinds, fields, others, items⟩ =>
    step kinds fields others items (fun f _ => induction step f.2)
      (fun s _ => induction step s) fun s _ => induction step s
termination_by s => sizeOf s
decreasing_by
  · next hf =>
    have := List.sizeOf_lt_of_mem hf
    have : sizeOf f.2 < sizeOf f := by
      cases f
      simp only [Prod.mk.sizeOf_spec]
      omega
    simp only [Schema.mk.sizeOf_spec]
    omega
  all_goals
    next hs =>
    obtain rfl := Option.mem_def.mp hs
    simp only [Schema.mk.sizeOf_spec, Option.some.sizeOf_spec]
    omega

/-! ## Issues at a place and below -/

theorem mem_check {kinds : List Kind} :
    i ∈ Issue.check kinds place d ↔ i = ⟨place, d, kinds⟩ ∧ ∀ k ∈ kinds, k.admits d = false := by
  unfold Issue.check
  split
  · next h =>
    obtain ⟨k, hk, hadmits⟩ := List.any_eq_true.mp h
    refine ⟨fun hi => absurd hi List.not_mem_nil, fun ⟨_, hnone⟩ => ?_⟩
    rw [hnone k hk] at hadmits
    contradiction
  · next h =>
    rw [List.mem_singleton]
    refine ⟨fun hi => ⟨hi, fun k hk => ?_⟩, And.left⟩
    exact Bool.eq_false_iff.mpr fun hadmits => h (List.any_eq_true.mpr ⟨k, hk, hadmits⟩)

theorem fieldIssues_eq_flatMap (fields : List (String × Schema)) (place : List String)
    (d : Document) : fieldIssues fields place d =
      fields.flatMap fun f => (d.field? f.1).toList.flatMap (f.2.issues (place ++ [f.1])) := by
  induction fields with
  | nil => simp [fieldIssues]
  | cons f fields ih =>
    obtain ⟨key, s⟩ := f
    rw [fieldIssues, List.flatMap_cons, ih]
    cases d.field? key <;> simp

theorem mem_fieldIssues {fields : List (String × Schema)} :
    i ∈ fieldIssues fields place d ↔
      ∃ f ∈ fields, ∃ e, d.field? f.1 = some e ∧ i ∈ f.2.issues (place ++ [f.1]) e := by
  rw [fieldIssues_eq_flatMap]
  simp

theorem mem_otherIssues {others : Option Schema} {known : List String} :
    i ∈ otherIssues others known place d ↔
      ∃ s ∈ others, ∃ entries, d = .fields entries ∧
        ∃ e ∈ entries, e.1 ∉ known ∧ i ∈ s.issues (place ++ [e.1]) e.2 := by
  cases others with
  | none => simp [otherIssues]
  | some s => cases d <;> simp [otherIssues, and_assoc]

theorem mem_itemIssues {items : Option Schema} :
    i ∈ itemIssues items place d ↔
      ∃ s ∈ items, ∃ ds, d = .row ds ∧
        ∃ (n : Nat) (e : Document), ds[n]? = some e ∧ i ∈ s.issues (place ++ [toString n]) e := by
  cases items with
  | none => simp [itemIssues]
  | some s =>
    cases d with
    | row ds =>
      simp only [itemIssues, List.mem_flatMap, List.mem_zipIdx_iff_getElem?, Option.mem_some_iff,
        Document.row.injEq, exists_eq_left']
      exact ⟨fun ⟨e, he, hi⟩ => ⟨e.2, e.1, he, hi⟩, fun ⟨n, e, he, hi⟩ => ⟨(e, n), he, hi⟩⟩
    | _ => simp [itemIssues]

/-- What a schema reports is the place itself, or an issue of a known field, of another field or of
an item. -/
theorem mem_issues {s : Schema} :
    i ∈ s.issues place d ↔
      (i = ⟨place, d, s.kinds⟩ ∧ ∀ k ∈ s.kinds, k.admits d = false) ∨
      (∃ f ∈ s.fields, ∃ e, d.field? f.1 = some e ∧ i ∈ f.2.issues (place ++ [f.1]) e) ∨
      (∃ o ∈ s.others, ∃ entries, d = .fields entries ∧
        ∃ e ∈ entries, e.1 ∉ s.fields.map Prod.fst ∧ i ∈ o.issues (place ++ [e.1]) e.2) ∨
      ∃ o ∈ s.items, ∃ ds, d = .row ds ∧
        ∃ (n : Nat) (e : Document), ds[n]? = some e ∧
          i ∈ o.issues (place ++ [toString n]) e := by
  obtain ⟨kinds, fields, others, items⟩ := s
  simp only [issues, List.mem_append, or_assoc, mem_check, mem_fieldIssues, mem_otherIssues,
    mem_itemIssues]

/-- Issues lie at the place that is checked, or below. -/
theorem prefix_of_mem_issues {s : Schema} (h : i ∈ s.issues place d) : place <+: i.place := by
  induction s using induction generalizing place d with
  | step kinds fields others items ihfields ihothers ihitems =>
    rcases mem_issues.mp h with ⟨rfl, -⟩ | ⟨f, hf, e, -, hi⟩ | ⟨o, ho, _, -, e, -, -, hi⟩ |
      ⟨o, ho, _, -, n, e, -, hi⟩
    · exact List.prefix_rfl
    · exact (List.prefix_append _ _).trans (ihfields f hf hi)
    · exact (List.prefix_append _ _).trans (ihothers o ho hi)
    · exact (List.prefix_append _ _).trans (ihitems o ho hi)

/-! ## Different places -/

/-- Two issues at different places. -/
def Apart (a b : Issue) : Prop := a.place ≠ b.place

/-- The known fields of a schema have different keys at every depth. -/
inductive KeysDistinct : Schema → Prop where
  | mk {kinds : List Kind} {fields : List (String × Schema)} {others items : Option Schema}
      (hkeys : (fields.map Prod.fst).Nodup) (hfields : ∀ f ∈ fields, KeysDistinct f.2)
      (hothers : ∀ s ∈ others, KeysDistinct s) (hitems : ∀ s ∈ items, KeysDistinct s) :
      KeysDistinct ⟨kinds, fields, others, items⟩

/-- Issues below different parts of a place are at different places. -/
theorem apart_of_ne {s t : Schema} {k l : String} {d e : Document} {a b : Issue}
    (ha : a ∈ s.issues (place ++ [k]) d) (hb : b ∈ t.issues (place ++ [l]) e) (h : k ≠ l) :
    Apart a b := by
  intro hab
  -- both extended places start the same place, and they have one length
  have hk := prefix_of_mem_issues ha
  have hl := prefix_of_mem_issues hb
  rw [hab] at hk
  have hkl := List.prefix_of_prefix_length_le hk hl (by simp)
  have := hkl.eq_of_length (by simp)
  exact h (by simpa using this)

/-- What is reported below a place is not the place itself. -/
theorem apart_self {s : Schema} {k : String} {kinds : List Kind} {d e : Document} {b : Issue}
    (hb : b ∈ s.issues (place ++ [k]) e) : Apart ⟨place, d, kinds⟩ b := by
  intro hab
  have := (prefix_of_mem_issues hb).length_le
  rw [← hab] at this
  simp at this

/-- The issue of the place itself is apart from all that is reported below the place. -/
theorem pairwise_check_append {kinds : List Kind} {below : List Issue}
    (h : below.Pairwise Apart) (hbelow : ∀ b ∈ below, Apart ⟨place, d, kinds⟩ b) :
    (Issue.check kinds place d ++ below).Pairwise Apart := by
  refine List.pairwise_append.mpr ⟨?_, h, fun a ha b hb => ?_⟩
  · unfold Issue.check
    split
    · exact .nil
    · exact List.pairwise_singleton _ _
  · obtain ⟨rfl, -⟩ := mem_check.mp ha
    exact hbelow b hb

variable (place) in
/-- What is reported for parts of a place with pairwise different names is at different places. -/
theorem pairwise_flatMap_parts {α : Type} {parts : List α} {name : α → String}
    {below : α → List Issue} (hnames : (parts.map name).Nodup)
    (h : ∀ x ∈ parts, (below x).Pairwise Apart)
    (hbelow : ∀ x ∈ parts, ∀ b ∈ below x, ∃ s e, b ∈ issues s (place ++ [name x]) e) :
    (parts.flatMap below).Pairwise Apart := by
  refine List.pairwise_flatMap.mpr ⟨h, ?_⟩
  have hne := List.pairwise_map.mp (List.nodup_iff_pairwise_ne.mp hnames)
  refine hne.imp_of_mem fun hx hy hxy a ha b hb => ?_
  obtain ⟨s, d, ha⟩ := hbelow _ hx a ha
  obtain ⟨t, e, hb⟩ := hbelow _ hy b hb
  exact apart_of_ne ha hb hxy

theorem pairwise_fieldIssues {fields : List (String × Schema)}
    (hkeys : (fields.map Prod.fst).Nodup)
    (h : ∀ f ∈ fields, ∀ e, d.field? f.1 = some e →
      (f.2.issues (place ++ [f.1]) e).Pairwise Apart) :
    (fieldIssues fields place d).Pairwise Apart := by
  rw [fieldIssues_eq_flatMap]
  refine pairwise_flatMap_parts place hkeys (fun f hf => ?_) fun f _ b hb => ?_
  · cases he : d.field? f.1 with
    | none => exact .nil
    | some e => simpa using h f hf e he
  · obtain ⟨e, -, hb⟩ := List.mem_flatMap.mp hb
    exact ⟨f.2, e, hb⟩

theorem pairwise_otherIssues {others : Option Schema} {known : List String}
    {entries : List (String × Document)} (hkeys : (entries.map Prod.fst).Nodup)
    (h : ∀ s ∈ others, ∀ e ∈ entries, (s.issues (place ++ [e.1]) e.2).Pairwise Apart) :
    (otherIssues others known place (.fields entries)).Pairwise Apart := by
  cases others with
  | none => simp [otherIssues]
  | some s =>
    rw [otherIssues]
    refine pairwise_flatMap_parts place (hkeys.sublist (List.filter_sublist.map _)) (fun e he => ?_)
      fun e _ b hb => ⟨s, e.2, hb⟩
    exact h s rfl e (List.mem_of_mem_filter he)

theorem pairwise_itemIssues {items : Option Schema} {ds : List Document}
    (h : ∀ s ∈ items, ∀ e ∈ ds, ∀ place, (s.issues place e).Pairwise Apart) :
    (itemIssues items place (.row ds)).Pairwise Apart := by
  cases items with
  | none => simp [itemIssues]
  | some s =>
    rw [itemIssues]
    refine pairwise_flatMap_parts place ?_ (fun e he => ?_) fun e _ b hb => ⟨s, e.1, hb⟩
    · have := (List.nodup_zipIdx_map_snd ds).map fun _ _ => Nat.repr_injective
      rwa [List.map_map] at this
    · exact h s rfl e.1 (List.fst_mem_of_mem_zipIdx he) _

/-- **No place is reported twice**: what is wrong with a place and what is wrong below it exclude
each other, and parts of a place have different names. -/
theorem pairwise_issues {s : Schema} (hs : s.KeysDistinct) (hd : d.KeysDistinct) :
    (s.issues place d).Pairwise Apart := by
  induction hs generalizing place d with
  | @mk kinds fields others items hkeys hfields hothers hitems ihfields ihothers ihitems =>
    rw [issues, List.append_assoc, List.append_assoc]
    refine pairwise_check_append (List.pairwise_append.mpr ⟨?_, List.pairwise_append.mpr
      ⟨?_, ?_, ?_⟩, ?_⟩) ?_
    · exact pairwise_fieldIssues hkeys fun f hf e he => ihfields f hf (hd.of_field? he)
    · cases hd with
      | @fields entries hkeys h =>
        exact pairwise_otherIssues hkeys fun s hs e he => ihothers s hs (h e he)
      | _ => cases others <;> simp [otherIssues]
    · cases hd with
      | @row ds h => exact pairwise_itemIssues fun s hs e he _ => ihitems s hs (h e he)
      | _ => cases items <;> simp [itemIssues]
    · intro a ha b hb
      obtain ⟨-, -, _, rfl, -⟩ := mem_otherIssues.mp ha
      obtain ⟨-, -, _, hrow, -⟩ := mem_itemIssues.mp hb
      contradiction
    · intro a ha b hb
      obtain ⟨f, hf, e, he, ha'⟩ := mem_fieldIssues.mp ha
      rcases List.mem_append.mp hb with hb | hb
      · obtain ⟨o, -, _, rfl, b', -, hknown, hb⟩ := mem_otherIssues.mp hb
        exact apart_of_ne ha' hb fun hkey => hknown (hkey ▸ List.mem_map_of_mem hf)
      · obtain ⟨-, -, _, rfl, -⟩ := mem_itemIssues.mp hb
        simp at he
    · intro b hb
      rcases List.mem_append.mp hb with hb | hb
      · obtain ⟨f, -, e, -, hb⟩ := mem_fieldIssues.mp hb
        exact apart_self hb
      · rcases List.mem_append.mp hb with hb | hb
        · obtain ⟨o, -, _, -, e, -, -, hb⟩ := mem_otherIssues.mp hb
          exact apart_self hb
        · obtain ⟨o, -, _, -, n, e, -, hb⟩ := mem_itemIssues.mp hb
          exact apart_self hb

end Schema

end PropertyFilter
