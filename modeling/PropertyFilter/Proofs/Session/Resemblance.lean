import PropertyFilter.Proofs.Session.Terms

/-!
# What a change cannot be seen by

A change to a shared collection leaves traces, but not everywhere. A question to a filter looks at a
value's type, and at the value itself only if it can be looked up in a set. And a filter whose names
by type are texts is out of the reach of any change, also when it is compared with one that is not.

## Main definitions

* `Value.Resembles`: the values are the same to every question that is asked about them
* `NameFilter.Settled`, `Item.Settled`: filters whose names by type are texts
* `NameFilter.Resembles`, `Item.Resembles`: the things are the same to every settled filter that
  they are compared with, and equal if settled

## Main results

* `Item.resembles_update`: a change makes a thing into one that resembles it
* `Term.resembles_eval`: terms that mention things which resemble each other stand for values which
  do
-/

namespace PropertyFilter

variable {k : LabelKinds} {l : Label} {new : Value}

/-! ## Values -/

namespace Value

variable {v v' w : Value}

/-- The second value answers every question about an owner, a type or a name as the first. -/
structure Resembles (v v' : Value) : Prop where
  typeName : v'.typeName = v.typeName
  searchable : NameFilter.isSearchable v' = NameFilter.isSearchable v
  eq_of_searchable : NameFilter.isSearchable v = true → v' = v

theorem Resembles.refl (v : Value) : v.Resembles v := ⟨rfl, rfl, fun _ => rfl⟩

theorem Resembles.trans (h : v.Resembles v') (h' : v'.Resembles w) : v.Resembles w :=
  ⟨h'.typeName.trans h.typeName, h'.searchable.trans h.searchable, fun hv =>
    (h'.eq_of_searchable (h.searchable.trans hv)).trans (h.eq_of_searchable hv)⟩

theorem isSearchable_of_isHashable (h : v.isHashable = true) :
    NameFilter.isSearchable v = true := by
  simp [NameFilter.isSearchable, h]

theorem Resembles.eq_of_isHashable (h : v.Resembles v') (hv : v.isHashable = true) : v' = v :=
  h.eq_of_searchable (isSearchable_of_isHashable hv)

theorem Resembles.isHashable (h : v.Resembles v') : v'.isHashable = v.isHashable := by
  cases hv : NameFilter.isSearchable v with
  | true => rw [h.eq_of_searchable hv]
  | false =>
    have hnot : ∀ u, NameFilter.isSearchable u = false → u.isHashable = false := fun u hu => by
      by_contra hhashable
      simp [isSearchable_of_isHashable (Bool.not_eq_false _ ▸ hhashable)] at hu
    rw [hnot v hv, hnot v' (h.searchable.trans hv)]

/-- Values that cannot be looked up resemble each other when their types do. -/
theorem resembles_of_typeName (h : v'.typeName = v.typeName)
    (hv : NameFilter.isSearchable v = false) (hv' : NameFilter.isSearchable v' = false) :
    v.Resembles v' :=
  ⟨h, hv'.trans hv.symm, fun hs => by simp [hv] at hs⟩

/-- **A change makes a value into one that resembles it.** -/
theorem resembles_update (hl : k l = some new.kind) (hnew : new.kind ≠ .fixed) (hv : v.Fits k) :
    v.Resembles (Value.update l new v) := by
  have hne : k l ≠ some .fixed := by
    rw [hl]
    exact fun h => hnew (Option.some.inj h)
  cases v with
  | list label items =>
    rw [Fits] at hv
    rw [Value.update]
    split
    · next h =>
      have hkind : some new.kind = some .list := hl.symm.trans (hv.1 l h)
      cases new with
      | list => exact resembles_of_typeName rfl rfl rfl
      | mapping _ view _ => cases view <;> simp [kind] at hkind
      | _ => simp [kind] at hkind
    · exact resembles_of_typeName rfl rfl rfl
  | mapping label view entries =>
    rw [Fits] at hv
    rw [Value.update]
    split
    · next h =>
      have hkind : some new.kind = some (if view then .fixed else .mapping) :=
        hl.symm.trans (hv.1 l h)
      cases view with
      | true => exact absurd (Option.some.inj hkind) hnew
      | false =>
        cases new with
        | mapping _ view' _ =>
          cases view' with
          | true => simp [kind] at hkind
          | false => exact resembles_of_typeName rfl rfl rfl
        | _ => simp [kind] at hkind
    · exact resembles_of_typeName rfl rfl rfl
  | tuple label items =>
    have hhashable := isHashable_update hne hnew hv
    have heq : (tuple label items).isHashable = true →
        Value.update l new (tuple label items) = tuple label items := update_of_isHashable hne hv
    rw [Fits] at hv
    rw [Value.update, if_neg (hv.1.ne hne)] at hhashable heq ⊢
    exact ⟨rfl, by simp [NameFilter.isSearchable, hhashable], fun hs =>
      heq (by simpa [NameFilter.isSearchable] using hs)⟩
  | set label frozen items =>
    rw [Fits] at hv
    rw [Value.update, if_neg (hv.1.ne hne), updateItems_of_allHashable hne hv.2.2 hv.2.1]
    exact .refl _
  | _ =>
    rw [Value.update]
    · exact .refl _
    all_goals simp

end Value

/-! ## Filters -/

namespace NameFilter

variable {f f' g : NameFilter}

/-- All names by type are texts. -/
def Settled (f : NameFilter) : Prop := ∀ e ∈ f.namesByType, ∀ v ∈ e.2, ∃ s, v = .text s

/-- The second filter is the first if that is settled, and in any case the same to every settled
filter, with the same digest. -/
structure Resembles (f f' : NameFilter) : Prop where
  eq_of_settled : f.Settled → f' = f
  digest : f'.digest = f.digest
  same : ∀ g : NameFilter, g.Settled → g.same f' = g.same f

theorem Resembles.refl (f : NameFilter) : f.Resembles f := ⟨fun _ => rfl, rfl, fun _ _ => rfl⟩

theorem Resembles.trans (h : f.Resembles f') (h' : f'.Resembles g) : f.Resembles g := by
  refine ⟨fun hf => ?_, h'.digest.trans h.digest, fun a ha => (h'.same a ha).trans (h.same a ha)⟩
  have heq := h.eq_of_settled hf
  rw [h'.eq_of_settled (heq ▸ hf), heq]

theorem updateItems_of_texts {names : List Value} (h : ∀ v ∈ names, ∃ s, v = .text s) :
    Value.updateItems l new names = names := by
  induction names with
  | nil => simp
  | cons v names ih =>
    rw [List.forall_mem_cons] at h
    obtain ⟨⟨s, rfl⟩, hnames⟩ := h
    rw [Value.updateItems, Value.update_text, ih hnames]

/-- Texts are told from a row before and after a change alike. -/
theorem sameItems_texts_updateItems (hnew : new.kind ≠ .fixed) {names : List Value}
    (h : ∀ v ∈ names, ∃ s, v = .text s) (vs : List Value) :
    Value.sameItems names (Value.updateItems l new vs) = Value.sameItems names vs := by
  induction names generalizing vs with
  | nil => cases vs <;> simp [Value.updateItems, Value.sameItems]
  | cons v names ih =>
    rw [List.forall_mem_cons] at h
    obtain ⟨⟨s, rfl⟩, hnames⟩ := h
    cases vs with
    | nil => simp
    | cons w vs =>
      rw [Value.updateItems, Value.sameItems, Value.sameItems, Value.same_text_update hnew,
        ih hnames]

theorem update_of_settled (hf : f.Settled) (hglobal : Value.updateItems l new f.globalNames =
    f.globalNames) : f.update l new = f := by
  have hrow : ∀ e ∈ f.namesByType, (e.1, Value.updateItems l new e.2) = e := fun e he => by
    rw [updateItems_of_texts (hf e he)]
  rw [NameFilter.update, hglobal, List.map_congr_left hrow, List.map_id']

theorem all_congr_of_mem {α : Type} {xs : List α} {p q : α → Bool} (h : ∀ x ∈ xs, p x = q x) :
    xs.all p = xs.all q := by
  induction xs with
  | nil => rfl
  | cons x xs ih =>
    rw [List.forall_mem_cons] at h
    rw [List.all_cons, List.all_cons, h.1, ih h.2]

/-- **A change makes a filter into one that resembles it**: it reaches names by type that are no
texts, and these are told from texts before and after. -/
theorem resembles_update (hl : k l ≠ some .fixed) (hnew : new.kind ≠ .fixed) (hf : f.Fits k) :
    f.Resembles (f.update l new) := by
  have hglobal : Value.updateItems l new f.globalNames = f.globalNames :=
    hf.updateItems_globalNames hl
  refine ⟨fun hsettled => update_of_settled hsettled hglobal, ?_, fun g hg => ?_⟩
  · rw [NameFilter.digest, NameFilter.digest, NameFilter.update, hglobal]
  · have hrow : ∀ e ∈ g.namesByType,
        (f.update l new).namesByType.any (fun e' => e.1.same e'.1 && Value.sameItems e.2 e'.2) =
          f.namesByType.any (fun e' => e.1.same e'.1 && Value.sameItems e.2 e'.2) := by
      intro e he
      simp only [NameFilter.update, List.any_map, Function.comp_def,
        sameItems_texts_updateItems hnew (hg e he)]
    have hrows : (f.update l new).namesByType.length = f.namesByType.length := by
      rw [NameFilter.update, List.length_map]
    have hall := all_congr_of_mem hrow
    rw [NameFilter.same, NameFilter.same, hall, hrows, NameFilter.update, hglobal]

variable {u u' v v' : Value}

/-- A name is looked for among a filter's names alike. -/
theorem matchesAmong_congr (h : v.Resembles v') (f : NameFilter) (names : List Value) :
    f.matchesAmong names v' = f.matchesAmong names v := by
  cases hv : isSearchable v with
  | true => rw [h.eq_of_searchable hv]
  | false =>
    have hfails : ∀ w, isSearchable w = false → f.matchesAmong names w = .error .unsuitable := by
      intro w hw
      cases w with
      | null => simp [isSearchable, Value.isHashable] at hw
      | _ => simp [matchesAmong, matchesAny, hw]
    rw [hfails v hv, hfails v' (h.searchable.trans hv)]

theorem typeKey?_congr (h : v.Resembles v') : typeKey? v' = typeKey? v := by
  cases hv : isSearchable v with
  | true => rw [h.eq_of_searchable hv]
  | false =>
    have hnone : ∀ w, isSearchable w = false → typeKey? w = none := by
      intro w hw
      cases w with
      | text | type => simp [isSearchable, Value.isHashable] at hw
      | _ => rfl
    rw [hnone v hv, hnone v' (h.searchable.trans hv)]

theorem namesFor_congr (h : v.Resembles v') (f : NameFilter) : f.namesFor v' = f.namesFor v := by
  rw [namesFor, namesFor, typeKey?_congr h]

theorem matchesType_congr (hu : u.Resembles u') (hv : v.Resembles v') (f : NameFilter) :
    f.matchesType u' v' = f.matchesType u v := by
  rw [matchesType, matchesType, namesFor_congr hu, matchesAmong_congr hv]

theorem matchesOwner_of_ne_null (h : u ≠ .null) (f : NameFilter) (name : Value) :
    f.matchesOwner u name = f.matchesAmong (f.namesUnder u.typeName) name := by
  cases u with
  | null => contradiction
  | _ => rfl

theorem matchesOwner_congr (hu : u.Resembles u') (hv : v.Resembles v') (f : NameFilter) :
    f.matchesOwner u' v' = f.matchesOwner u v := by
  cases hs : isSearchable u with
  | true =>
    rw [hu.eq_of_searchable hs]
    exact matchesAmong_congr hv f _
  | false =>
    have hne : ∀ w, isSearchable w = false → w ≠ .null := by
      rintro w hw rfl
      simp [isSearchable, Value.isHashable] at hw
    rw [matchesOwner_of_ne_null (hne u hs),
      matchesOwner_of_ne_null (hne u' (hu.searchable.trans hs)), hu.typeName,
      matchesAmong_congr hv]

end NameFilter

/-! ## Things -/

namespace Item

variable {o o' o'' : Item}

/-- A filter, or a pair of filters, whose names by type are texts. -/
def Settled : Item → Prop
  | value _ => False
  | filter f => f.Settled
  | filters c => c.excludes.Settled ∧ c.includes.Settled

/-- The second thing is of the sort of the first and resembles it. -/
inductive Resembles : Item → Item → Prop
  | value {v v' : Value} (h : v.Resembles v') : Resembles (.value v) (.value v')
  | filter {f f' : NameFilter} (h : f.Resembles f') : Resembles (.filter f) (.filter f')
  | filters {c c' : OutputFilters} (hexcludes : c.excludes.Resembles c'.excludes)
    (hincludes : c.includes.Resembles c'.includes) : Resembles (.filters c) (.filters c')

theorem Resembles.refl (o : Item) : o.Resembles o := by
  cases o with
  | value v => exact .value (.refl v)
  | filter f => exact .filter (.refl f)
  | filters c => exact .filters (.refl _) (.refl _)

theorem Resembles.trans (h : o.Resembles o') (h' : o'.Resembles o'') : o.Resembles o'' := by
  cases h with
  | value h => cases h' with | value h' => exact .value (h.trans h')
  | filter h => cases h' with | filter h' => exact .filter (h.trans h')
  | filters hexcludes hincludes =>
    cases h' with
    | filters hexcludes' hincludes' =>
      exact .filters (hexcludes.trans hexcludes') (hincludes.trans hincludes')

/-- What is settled is only resembled by itself. -/
theorem Resembles.eq_of_settled (h : o.Resembles o') (ho : o.Settled) : o' = o := by
  cases h with
  | value h => exact ho.elim
  | filter h => rw [h.eq_of_settled ho]
  | @filters c c' hexcludes hincludes =>
    obtain ⟨excludes, includes⟩ := c
    obtain ⟨excludes', includes'⟩ := c'
    obtain rfl := hexcludes.eq_of_settled ho.1
    obtain rfl := hincludes.eq_of_settled ho.2
    rfl

/-- **A change makes a thing into one that resembles it.** -/
theorem resembles_update (hl : k l = some new.kind) (hnew : new.kind ≠ .fixed) (ho : o.Fits k) :
    o.Resembles (o.update l new) := by
  have hne : k l ≠ some .fixed := by
    rw [hl]
    exact fun h => hnew (Option.some.inj h)
  cases o with
  | value v => exact .value (Value.resembles_update hl hnew ho)
  | filter f => exact .filter (NameFilter.resembles_update hne hnew ho)
  | filters c =>
    exact .filters (NameFilter.resembles_update hne hnew ho.excludes)
      (NameFilter.resembles_update hne hnew ho.includes)

end Item

/-! ## Stores and terms -/

namespace Store

variable {s s' s'' : Store} {name : String}

/-- Both stores have nothing under a name, or things that resemble each other. -/
def ResembleUnder (name : String) (s s' : Store) : Prop :=
  Option.Rel Item.Resembles (s.find? name) (s'.find? name)

theorem ResembleUnder.of_eq (h : s'.find? name = s.find? name) : ResembleUnder name s s' := by
  rw [ResembleUnder, h]
  cases s.find? name with
  | none => exact .none
  | some o => exact .some (.refl o)

theorem ResembleUnder.trans (h : ResembleUnder name s s') (h' : ResembleUnder name s' s'') :
    ResembleUnder name s s'' := by
  rw [ResembleUnder] at h h' ⊢
  generalize s.find? name = o at h ⊢
  generalize s'.find? name = o' at h h'
  generalize s''.find? name = o'' at h' ⊢
  cases h with
  | none => exact h'
  | some h => cases h' with | some h' => exact .some (h.trans h')

theorem ResembleUnder.value? (h : ResembleUnder name s s') :
    ((s.value? name).getD .null).Resembles ((s'.value? name).getD .null) := by
  unfold Store.value?
  rw [ResembleUnder] at h
  generalize s.find? name = o at h ⊢
  generalize s'.find? name = o' at h ⊢
  cases h with
  | none => exact .refl _
  | some h =>
    cases h with
    | value h => exact h
    | filter h => exact .refl _
    | filters => exact .refl _

end Store

namespace Term

variable {s s' : Store}

mutual

/-- **Terms that mention things which resemble each other** stand for values which do. -/
theorem resembles_eval : ∀ {t : Term}, t.Proper s → (∀ n ∈ t.mentions, Store.ResembleUnder n s s') →
    (t.eval s).Resembles (t.eval s')
  | .value v, _, _ => by
    rw [eval, eval]
    exact .refl v
  | .ref name, _, h => by
    rw [eval, eval]
    exact (h name (by simp [mentions])).value?
  | .list items, _, _ => by
    rw [eval, eval]
    exact Value.resembles_of_typeName rfl rfl rfl
  | .mapping view entries, _, _ => by
    rw [eval, eval]
    exact Value.resembles_of_typeName rfl rfl rfl
  | .tuple items, ht, h => by
    rw [Proper] at ht
    obtain ⟨hhashable, heq⟩ := resembles_evalItems ht fun n hn => h n (by rwa [mentions])
    rw [eval, eval]
    refine ⟨rfl, ?_, fun hs => ?_⟩
    · simp [NameFilter.isSearchable, Value.isHashable, hhashable]
    · rw [heq (by simpa [NameFilter.isSearchable, Value.isHashable] using hs)]
  | .set frozen items, ht, h => by
    rw [Proper] at ht
    obtain ⟨-, heq⟩ := resembles_evalItems ht.2 fun n hn => h n (by rwa [mentions])
    rw [eval, eval, heq ht.1]
    exact .refl _

/-- A row is hashable in both stores or in none, and if it is, it stands for the same values. -/
theorem resembles_evalItems :
    ∀ {ts : List Term}, ProperItems s ts → (∀ n ∈ mentionsItems ts, Store.ResembleUnder n s s') →
      Value.allHashable (evalItems s' ts) = Value.allHashable (evalItems s ts) ∧
        (Value.allHashable (evalItems s ts) = true → evalItems s' ts = evalItems s ts)
  | [], _, _ => by simp
  | t :: ts, ht, h => by
    rw [ProperItems] at ht
    rw [mentionsItems, List.forall_mem_append] at h
    have hv := resembles_eval ht.1 h.1
    obtain ⟨hhashable, heq⟩ := resembles_evalItems ht.2 h.2
    rw [evalItems, evalItems, Value.allHashable, Value.allHashable, hv.isHashable, hhashable]
    refine ⟨rfl, fun hall => ?_⟩
    rw [Bool.and_eq_true] at hall
    rw [hv.eq_of_isHashable hall.1, heq hall.2]

end

end Term

end PropertyFilter
