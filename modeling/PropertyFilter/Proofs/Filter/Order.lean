import PropertyFilter.Proofs.Filter.Congruence

/-!
# Order of entries and names

The entries of a mapping are gone through in order, and a later one takes the place of an earlier
one for the same type. Where all types are different there is no place to take, and the order of the
entries makes no difference. Taking up two entries one after the other commutes unless both have
names for one type, so that only entries of this sort can be told apart by exchanging them.

## Main definitions

* `SameElements vs ws`: two rows hold the same values, in any order and number
* `takeNames t names e`: the names that are left for a type when an entry comes in
* `usableTypes entries`: the types that the keys of entries stand for
* `Reordered raw raw'`: two values that configure the same names, in any order and number

## Main results

* `takeNames_comm`: taking up two entries commutes unless both have names for the type
* `foldl_takeNames_perm`: entries for different types may come in any order
* `NameFilter.matches_configured_of_reordered`: answers do not depend on the order of names
* `NameFilter.fromConfiguration_order`: what filters depend on, and what they do not
-/

namespace PropertyFilter

/-! ## Rows in any order -/

/-- Two rows hold the same values, in any order and number. -/
def SameElements (vs ws : List Value) : Prop := ∀ v, v ∈ vs ↔ v ∈ ws

namespace SameElements

variable {vs ws vs' ws' : List Value}

theorem refl (vs : List Value) : SameElements vs vs := fun _ => Iff.rfl

theorem append (h : SameElements vs ws) (h' : SameElements vs' ws') :
    SameElements (vs ++ vs') (ws ++ ws') := by
  intro v
  rw [List.mem_append, List.mem_append, h v, h' v]

theorem nil_iff (h : SameElements vs ws) : vs = [] ↔ ws = [] := by
  rw [List.eq_nil_iff_forall_not_mem, List.eq_nil_iff_forall_not_mem]
  exact forall_congr' fun v => not_congr (h v)

theorem memberOf_eq (h : SameElements vs ws) (v : Value) : v.memberOf vs = v.memberOf ws := by
  rw [Bool.eq_iff_iff, Value.memberOf_iff, Value.memberOf_iff]
  exact exists_congr fun w => and_congr_left fun _ => h w

theorem allHashable_eq (h : SameElements vs ws) :
    Value.allHashable vs = Value.allHashable ws := by
  rw [Bool.eq_iff_iff, Value.allHashable_iff, Value.allHashable_iff]
  exact forall_congr' fun v => imp_congr_left (h v)

theorem sameMembers (h : SameElements vs ws) : Value.SameMembers vs ws :=
  ⟨fun v hv => ⟨v, (h v).mp hv, Value.same_refl v⟩,
    fun v hv => ⟨v, (h v).mpr hv, Value.same_refl v⟩⟩

end SameElements

/-! ## Taking up entries -/

/-- The names that are left for a type when an entry comes in: those of the entry, if it has any for
the type. -/
def takeNames (t : String) (names : List Value) (e : Value × Value) : List Value :=
  if typeKey? e.1 = some t then lastNames names e.2 else names

section Taking

variable {t : String} {e e' : Value × Value} {entries entries' : List (Value × Value)}

theorem takeNames_of_not (h : ¬ HasNames t e) (names : List Value) :
    takeNames t names e = names := by
  unfold takeNames lastNames
  split
  · next hkey =>
    cases hvalue : propertyNames? e.2 with
    | none => rfl
    | some listed =>
      cases listed with
      | nil => rfl
      | cons n ns => exact absurd ⟨hkey, _, hvalue, List.cons_ne_nil n ns⟩ h
  · rfl

/-- **Taking up two entries commutes** unless both have names for the type. -/
theorem takeNames_comm (h : ¬ (HasNames t e ∧ HasNames t e')) (names : List Value) :
    takeNames t (takeNames t names e) e' = takeNames t (takeNames t names e') e := by
  by_cases he : HasNames t e
  · have he' : ¬ HasNames t e' := fun he' => h ⟨he, he'⟩
    rw [takeNames_of_not he', takeNames_of_not he']
  · rw [takeNames_of_not he, takeNames_of_not he]

/-- The types that the keys of entries stand for, as far as they stand for any. -/
def usableTypes (entries : List (Value × Value)) : List String :=
  entries.filterMap fun e => typeKey? e.1

/-- Where keys stand for different types, no two entries have names for one type. -/
theorem eq_of_hasNames (hnodup : (usableTypes entries).Nodup) (hmem : e ∈ entries)
    (hmem' : e' ∈ entries) (he : HasNames t e) (he' : HasNames t e') : e = e' := by
  by_contra hne
  have hpairs := List.pairwise_filterMap.mp hnodup
  have hsymm : Std.Symm fun d d' : Value × Value =>
      ∀ u, typeKey? d.1 = some u → ∀ u', typeKey? d'.1 = some u' → u ≠ u' :=
    ⟨fun _ _ h u hu u' hu' => (h u' hu' u hu).symm⟩
  exact hpairs.forall hmem hmem' hne t he.1 t he'.1 rfl

/-- Entries for different types leave the same names for a type, in whichever order they come. -/
theorem foldl_takeNames_perm (hnodup : (usableTypes entries).Nodup) (hperm : entries.Perm entries')
    (names : List Value) :
    entries.foldl (takeNames t) names = entries'.foldl (takeNames t) names := by
  refine hperm.foldl_eq' (fun e hmem e' hmem' names => ?_) names
  by_cases h : HasNames t e ∧ HasNames t e'
  · obtain rfl := eq_of_hasNames hnodup hmem hmem' h.1 h.2
    rfl
  · exact takeNames_comm h names

/-- Two entries next to each other may change places, unless both have names for the type. -/
theorem foldl_takeNames_swap (h : ¬ (HasNames t e ∧ HasNames t e'))
    (before after : List (Value × Value)) (names : List Value) :
    (before ++ e :: e' :: after).foldl (takeNames t) names =
      (before ++ e' :: e :: after).foldl (takeNames t) names := by
  rw [List.foldl_append, List.foldl_append, List.foldl_cons, List.foldl_cons, List.foldl_cons,
    List.foldl_cons, takeNames_comm h]

end Taking

/-! ## Values that hold the same names -/

/-- Two entries have one key, and values that hold the same names, or no names both. -/
structure ReorderedEntry (e e' : Value × Value) : Prop where
  key : e.1 = e'.1
  names : Option.Rel SameElements (propertyNames? e.2) (propertyNames? e'.2)

/-- Two values configure the same names, in any order and number: names that match on any owner, or
names by type, entry by entry. -/
inductive Reordered : Value → Value → Prop
  | refl (v : Value) : Reordered v v
  | names {s s' : String} (h : SameElements (listedNames s) (listedNames s')) :
    Reordered (.text s) (.text s')
  | types {label label' : Option Label} {view view' : Bool}
    {entries entries' : List (Value × Value)}
    (h : List.Forall₂ ReorderedEntry entries entries') :
    Reordered (.mapping label view entries) (.mapping label' view' entries')

section Reordering

variable {t : String} {e e' : Value × Value} {entries entries' : List (Value × Value)}
  {names names' : List Value}

/-- Entries that hold the same names leave the same names. -/
theorem sameElements_takeNames (hnames : SameElements names names') (h : ReorderedEntry e e') :
    SameElements (takeNames t names e) (takeNames t names' e') := by
  obtain ⟨hkey, hlisted⟩ := h
  unfold takeNames lastNames
  rw [hkey]
  split
  · generalize propertyNames? e.2 = listed at hlisted ⊢
    generalize propertyNames? e'.2 = listed' at hlisted ⊢
    cases hlisted with
    | none => exact hnames
    | @some listed listed' h =>
      cases listed with
      | nil =>
        obtain rfl := h.nil_iff.mp rfl
        exact hnames
      | cons n ns =>
        cases listed' with
        | nil => exact absurd (h.nil_iff.mpr rfl) (List.cons_ne_nil n ns)
        | cons => exact h
  · exact hnames

theorem sameElements_foldl_takeNames (h : List.Forall₂ ReorderedEntry entries entries')
    (hnames : SameElements names names') :
    SameElements (entries.foldl (takeNames t) names) (entries'.foldl (takeNames t) names') := by
  induction h generalizing names names' with
  | nil => exact hnames
  | cons he _ ih => exact ih (sameElements_takeNames hnames he)

end Reordering

namespace NameFilter

variable {label label' : Option Label} {view view' : Bool}
  {entries entries' : List (Value × Value)} {defaults defaults' : List Value}

/-! ## Filters -/

/-- The pass over entries leaves for a type what taking up the entries leaves. -/
theorem findText?_typesOf_eq_takeNames (entries : List (Value × Value)) (t : String) :
    (Entries.findText? (typesOf entries) t).getD [] = entries.foldl (takeNames t) [] := by
  rw [findText?_typesOf_eq_foldl, valuesFor, List.foldl_map, List.foldl_filter]
  congr 1
  funext names e
  simp [takeNames]

theorem configured_mapping :
    configured (.mapping label view entries) defaults = ⟨distinct defaults, typesOf entries⟩ := by
  simp [configured, Shape.ofValue, globalNamesOf, namesByTypeOf]

theorem namesUnder_configured_mapping (t : String) :
    (configured (.mapping label view entries) defaults).namesUnder t =
      entries.foldl (takeNames t) [] := by
  rw [configured_mapping, namesUnder, findText?_typesOf_eq_takeNames]

/-- The digest depends on the default names only, and not on their order or number. -/
theorem digest_configured_mapping (hproper : ∀ v ∈ defaults, v.IsProper)
    (hdefaults : SameElements defaults defaults') :
    (configured (.mapping label view entries) defaults).digest =
      (configured (.mapping label' view' entries') defaults').digest := by
  have hproper' : ∀ v ∈ defaults', v.IsProper := fun v hv => hproper v ((hdefaults v).mpr hv)
  rw [configured_mapping, configured_mapping, digest, digest,
    Value.setDigest_of_same (Value.isProper_distinct hproper) (Value.isProper_distinct hproper')
      (distinct_same hproper hproper' hdefaults.sameMembers)]

/-- Mappings that leave the same names for every type make filters that are the same. -/
theorem same_configured_mapping (hproper : ∀ v ∈ defaults, v.IsProper)
    (hdefaults : SameElements defaults defaults')
    (hunder : ∀ t, entries.foldl (takeNames t) [] = entries'.foldl (takeNames t) []) :
    (configured (.mapping label view entries) defaults).same
      (configured (.mapping label' view' entries') defaults') = true := by
  have hproper' : ∀ v ∈ defaults', v.IsProper := fun v hv => hproper v ((hdefaults v).mpr hv)
  rw [configured_mapping, configured_mapping, same_iff]
  refine ⟨distinct_same hproper hproper' hdefaults.sameMembers, rows_of_sameItems fun t => ?_⟩
  rw [findText?_typesOf_eq_takeNames, findText?_typesOf_eq_takeNames, hunder t]
  exact Value.sameItems_refl _

/-- Names that are held in another order or number are found all the same. -/
theorem matches_configured_of_reordered {raw raw' : Value} (hraw : Reordered raw raw')
    (hdefaults : SameElements defaults defaults') :
    (∀ typeId name, (configured raw defaults).matchesType typeId name =
        (configured raw' defaults').matchesType typeId name) ∧
      ∀ owner name, (configured raw defaults).matchesOwner owner name =
        (configured raw' defaults').matchesOwner owner name := by
  have hglobal : SameElements (globalNamesOf (Shape.ofValue raw))
      (globalNamesOf (Shape.ofValue raw')) := by
    cases hraw with
    | refl => exact .refl _
    | names h => exact h
    | types h => exact .refl []
  have hunder : ∀ t, SameElements ((configured raw defaults).namesUnder t)
      ((configured raw' defaults').namesUnder t) := by
    intro t
    cases hraw with
    | refl => exact .refl _
    | names h => exact .refl []
    | types h =>
      rw [namesUnder_configured_mapping, namesUnder_configured_mapping]
      exact sameElements_foldl_takeNames h (.refl [])
  refine matches_eq_of_memberOf (fun v => ?_) fun t => (hunder t).memberOf_eq
  rw [configured, configured, (distinct_isSetOf _).memberOf_eq, (distinct_isSetOf _).memberOf_eq]
  exact (hdefaults.append hglobal).memberOf_eq v

/-- **What filters depend on, and what they do not.** From a mapping whose keys stand for different
types, as far as they stand for any, the same filter is made in whichever order the entries come,
and the default names, which may be there twice. If names are held in another order or number, every
question is answered as before. Where two entries next to each other change places, the digest stays
as it is, and there are other names for a type only if both entries have names for it. -/
theorem fromConfiguration_order (hhashable : Value.allHashable defaults = true)
    (hproper : ∀ v ∈ defaults, v.IsProper) (hdefaults : SameElements defaults defaults') :
    (∀ label view entries label' view' entries', (usableTypes entries).Nodup →
      entries.Perm entries' → ∃ f f',
        (fromConfiguration (.mapping label view entries) defaults).outcome = .ok f ∧
        (fromConfiguration (.mapping label' view' entries') defaults').outcome = .ok f' ∧
        f.same f' = true ∧ f.digest = f'.digest) ∧
    (∀ raw raw', Reordered raw raw' → ∃ f f',
      (fromConfiguration raw defaults).outcome = .ok f ∧
      (fromConfiguration raw' defaults').outcome = .ok f' ∧
      (∀ typeId name, f.matchesType typeId name = f'.matchesType typeId name) ∧
      ∀ owner name, f.matchesOwner owner name = f'.matchesOwner owner name) ∧
    ∀ label view before e e' after, ∃ f f',
      (fromConfiguration (.mapping label view (before ++ e :: e' :: after)) defaults).outcome =
        .ok f ∧
      (fromConfiguration (.mapping label view (before ++ e' :: e :: after)) defaults).outcome =
        .ok f' ∧
      f.digest = f'.digest ∧
      (∀ t, f.namesUnder t ≠ f'.namesUnder t → HasNames t e ∧ HasNames t e') ∧
      (f.same f' = false → ∃ t, HasNames t e ∧ HasNames t e') := by
  have hhashable' := hdefaults.allHashable_eq ▸ hhashable
  refine ⟨?_, fun raw raw' hraw => ?_, ?_⟩
  · intro label view entries label' view' entries' hnodup hperm
    refine ⟨_, _, outcome_fromConfiguration _ hhashable, outcome_fromConfiguration _ hhashable',
      same_configured_mapping hproper hdefaults fun t => foldl_takeNames_perm hnodup hperm [],
      digest_configured_mapping hproper hdefaults⟩
  · exact ⟨_, _, outcome_fromConfiguration _ hhashable, outcome_fromConfiguration _ hhashable',
      matches_configured_of_reordered hraw hdefaults⟩
  · intro label view before e e' after
    refine ⟨_, _, outcome_fromConfiguration _ hhashable, outcome_fromConfiguration _ hhashable,
      digest_configured_mapping hproper (.refl defaults), fun t hne => ?_, fun hne => ?_⟩
    · by_contra h
      rw [namesUnder_configured_mapping, namesUnder_configured_mapping] at hne
      exact hne (foldl_takeNames_swap h before after [])
    · by_contra hnone
      have hunder : ∀ t, (before ++ e :: e' :: after).foldl (takeNames t) [] =
          (before ++ e' :: e :: after).foldl (takeNames t) [] :=
        fun t => foldl_takeNames_swap (fun h => hnone ⟨t, h⟩) before after []
      rw [same_configured_mapping hproper (.refl defaults) hunder] at hne
      contradiction

/-- Entries for two types and one under a number change places, a default name comes twice, and
names are held in another order; of two entries for one type the later one counts. -/
theorem fromConfiguration_order_exchanged :
    (∃ f f', (fromConfiguration (.mapping none false
          [(.text "User", .text "a, b"), (.int 1, .text "c"), (.type "Item" 0, .text "d")])
        [.text "x", .text "y"]).outcome = .ok f ∧
      (fromConfiguration (.mapping none true
          [(.type "Item" 0, .text "d"), (.text "User", .text "a, b"), (.int 1, .text "c")])
        [.text "y", .text "x", .text "y"]).outcome = .ok f' ∧
      f.same f' = true ∧ f.digest = f'.digest) ∧
    (∃ f f', (fromConfiguration (.mapping none false [(.text "User", .text "a, b")])
        [.text "x", .text "y"]).outcome = .ok f ∧
      (fromConfiguration
          (.mapping none false [(.text "User", .set none true [.text "b", .text "a"])])
        [.text "y", .text "x", .text "y"]).outcome = .ok f' ∧ f.same f' = false ∧
      ∀ owner name, f.matchesOwner owner name = f'.matchesOwner owner name) ∧
    ∃ f f', (fromConfiguration (.mapping none false
          [(.text "User", .text "a"), (.type "User" 0, .text "b")])
        [.text "x", .text "y"]).outcome = .ok f ∧
      (fromConfiguration (.mapping none false
          [(.type "User" 0, .text "b"), (.text "User", .text "a")])
        [.text "x", .text "y"]).outcome = .ok f' ∧
      f.same f' = false ∧ ∃ t, HasNames t (.text "User", .text "a") ∧
        HasNames t (.type "User" 0, .text "b") := by
  have hhashable : Value.allHashable [.text "x", .text "y"] = true := by decide
  have hhashable' : Value.allHashable [.text "y", .text "x", .text "y"] = true := by decide
  have hdefaults : SameElements [.text "x", .text "y"] [.text "y", .text "x", .text "y"] := by
    intro v
    simp only [List.mem_cons, List.not_mem_nil, or_false]
    tauto
  obtain ⟨hperm, hreordered, hswap⟩ := fromConfiguration_order hhashable (by simp) hdefaults
  refine ⟨hperm _ _ _ _ _ _ (by simp [usableTypes, typeKey?]) ?_, ?_, ?_⟩
  · show ([_, _] ++ [_]).Perm ([_] ++ [_, _])
    exact List.perm_append_comm
  · have hnames : SameElements (listedNames "a, b") [.text "b", .text "a"] := by
      have hlisted : listedNames "a, b" = [.text "a", .text "b"] := by cbv
      intro v
      simp only [hlisted, List.mem_cons, List.not_mem_nil, or_false]
      tauto
    have hentry : ReorderedEntry (.text "User", .text "a, b")
        (.text "User", .set none true [.text "b", .text "a"]) := ⟨rfl, .some hnames⟩
    obtain ⟨f, f', hf, hf', -, howner⟩ := hreordered (.mapping none false _)
      (.mapping none false _) (.types (.cons hentry .nil))
    refine ⟨f, f', hf, hf', ?_, howner⟩
    obtain rfl := Except.ok.inj ((outcome_fromConfiguration _ hhashable).symm.trans hf)
    obtain rfl := Except.ok.inj ((outcome_fromConfiguration _ hhashable').symm.trans hf')
    cbv
  · obtain ⟨f, f', hf, hf', -, -, hnames⟩ := hswap none false [] (.text "User", .text "a")
      (.type "User" 0, .text "b") []
    refine ⟨f, f', hf, hf', ?_⟩
    have hne : f.same f' = false := by
      obtain rfl := Except.ok.inj ((outcome_fromConfiguration _ hhashable).symm.trans hf)
      obtain rfl := Except.ok.inj ((outcome_fromConfiguration _ hhashable).symm.trans hf')
      cbv
    exact ⟨hne, hnames hne⟩

end NameFilter

end PropertyFilter
