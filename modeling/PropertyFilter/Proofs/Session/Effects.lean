import PropertyFilter.Proofs.Session.Terms

/-!
# What a step does to a store

A step leaves the store as it is, names a thing, or changes a shared collection into one of the same
kind. Everything else about sessions is derived from this: that the labels of a store keep fitting
here, and that filters do not change in `Immutability`.

## Main definitions

* `Step.terms`, `Step.bound?`: the terms that a step is given, and the name that it may bind
* `ProperSteps`: every term of a session can be written down where it stands
* `Value.Change`: a value and the changed value, as append and put make them
* `StoreEffect`: what a step may do to a store

## Main results

* `storeEffect_run`: every step does one of these things
* `StoreEffect.exists_fits`: they keep the labels of a store fitting
-/

namespace PropertyFilter

variable {k k' : LabelKinds} {s s' : Store}

namespace Step

/-- The terms that a step is given. -/
def terms : Step → List Term
  | define _ t => [t]
  | append _ t => [t]
  | put _ key t => [key, t]
  | fromConfiguration _ raw defaults => raw :: defaults
  | ofParts _ globalNames namesByType => globalNames.toList ++ namesByType.toList
  | configure _ configuration extraExcludes extraIncludes =>
    configuration :: (extraExcludes.toList ++ extraIncludes.toList)
  | newConfiguration _ configuration => configuration.toList
  | matchesOwner _ owner property => [owner, property]
  | matchesType _ typeId property => [typeId, property]
  | namesFor _ typeId => [typeId]
  | same _ other | sameDigest _ other => [other]
  | assignField _ _ value => [value]
  | assignType _ typeId names => [typeId, names]
  | get _ | takeSide _ _ _ | isEmpty _ | snapshot _ => []

/-- The name that a step binds when it succeeds. -/
def bound? : Step → Option String
  | define name _ | fromConfiguration name _ _ | ofParts name _ _ | configure name _ _ _
  | newConfiguration name _ | takeSide name _ _ => some name
  | _ => none

/-- The terms of a step are proper. -/
def Proper (s : Store) (step : Step) : Prop := ∀ t ∈ step.terms, t.Proper s

end Step

/-- All terms of a session are proper where they stand. -/
def ProperSteps (s : Store) : List Step → Prop
  | [] => True
  | step :: steps => step.Proper s ∧ ProperSteps (step.run s).store steps

theorem properSteps_append {xs ys : List Step} :
    ProperSteps s (xs ++ ys) ↔ ProperSteps s xs ∧ ProperSteps (runSteps s xs).2 ys := by
  induction xs generalizing s with
  | nil => simp [ProperSteps]
  | cons x xs ih => simp [ProperSteps, runSteps, ih, and_assoc]

/-! ## Changes of a value -/

namespace Value

/-- A value that can be changed in place, and what it is changed into. -/
structure Change (k : LabelKinds) (old new : Value) : Prop where
  typeName : new.typeName = old.typeName
  old_not_searchable : NameFilter.isSearchable old = false
  new_not_searchable : NameFilter.isSearchable new = false
  fits : new.Fits k
  kind : ∀ l ∈ old.label?, k l = some new.kind ∧ new.kind ≠ .fixed

end Value

namespace Store

variable {old new : Value}

theorem change_of_appended {member : Value} (hold : old.Fits k) (hmember : member.Fits k)
    (h : appended old member = .ok new) : Value.Change k old new := by
  unfold appended at h
  split at h
  · obtain rfl := Except.ok.inj h
    rw [Value.Fits] at hold
    refine ⟨rfl, rfl, rfl, ?_, fun l hl => ⟨hold.1 l hl, by simp [Value.kind]⟩⟩
    rw [Value.Fits]
    refine ⟨hold.1, Value.fitItems_iff.mpr (List.forall_mem_append.mpr ⟨?_, ?_⟩)⟩
    · exact Value.fitItems_iff.mp hold.2
    · simpa using hmember
  · split at h
    · split at h
      · obtain rfl := Except.ok.inj h
        exact ⟨rfl, rfl, rfl, by simp [Value.Fits], by simp [Value.label?]⟩
      · contradiction
    · contradiction
  · contradiction

theorem change_of_assigned {key member : Value} (hold : old.Fits k) (hkey : key.Fits k)
    (hmember : member.Fits k) (h : assigned old key member = .ok new) :
    Value.Change k old new := by
  unfold assigned at h
  split at h
  · split at h
    · obtain rfl := Except.ok.inj h
      rw [Value.Fits] at hold
      refine ⟨rfl, rfl, rfl, ?_, fun l hl => ⟨hold.1 l hl, by simp [Value.kind]⟩⟩
      rw [Value.Fits]
      have hentries := Value.fitEntries_iff.mp hold.2
      exact ⟨hold.1, Value.fitEntries_iff.mpr (Entries.forall_mem_insert hkey hmember hentries)⟩
    · contradiction
  · split at h
    · extract_lets i at h
      split at h
      · obtain rfl := Except.ok.inj h
        rw [Value.Fits] at hold
        refine ⟨rfl, rfl, rfl, ?_, fun l hl => ⟨hold.1 l hl, by simp [Value.kind]⟩⟩
        rw [Value.Fits]
        refine ⟨hold.1, Value.fitItems_iff.mpr fun v hv => ?_⟩
        rcases List.mem_or_eq_of_mem_set hv with hv | rfl
        · exact Value.fitItems_iff.mp hold.2 v hv
        · exact hmember
      · contradiction
    · contradiction
  · contradiction

end Store

/-! ## Effects -/

/-- What a step may do to a store: nothing, name a thing, or change a value. A step that names
something, if it succeeds, is given with the name. -/
inductive StoreEffect (k : LabelKinds) (s : Store) : Option String → Store → Prop
  | none {bound : Option String} : StoreEffect k s bound s
  | bind {name : String} {item : Item} (fits : item.Fits k) :
    StoreEffect k s (some name) (s.bind name item)
  | define {name : String} {v : Value} (fits : v.Fits k) :
    StoreEffect k s (some name) (s.define name v)
  | change {name : String} {old new : Value} (found : s.find? name = some (.value old))
    (change : Value.Change k old new) : StoreEffect k s Option.none (s.change name old new)

namespace Step

@[simp] theorem store_answered (s : Store) (r : Except Fault Answer) :
    (answered s r).store = s := rfl

@[simp] theorem store_ask (s : Store) (name : String) (question : Item → Except Fault Answer) :
    (ask s name question).store = s := by
  unfold ask
  split <;> rfl

@[simp] theorem store_askFilter (s : Store) (name : String)
    (question : NameFilter → Except Fault Answer) : (askFilter s name question).store = s :=
  store_ask _ _ _

@[simp] theorem store_compare (s : Store) (name : String) (other : Term)
    (f : Item → Item → Except Fault Bool) : (compare s name other f).store = s := by
  unfold compare
  split
  · rfl
  · exact store_ask _ _ _

variable {name : String}

theorem storeEffect_bindFilter {made : Noticed StepError NameFilter}
    (h : ∀ f, made.outcome = .ok f → f.Fits k) :
    StoreEffect k s (some name) (bindFilter s name made).store := by
  unfold bindFilter
  split
  · next f hf =>
    have hfits : (Item.filter f).Fits k := h f hf
    exact .bind hfits
  · exact .none

theorem storeEffect_bindFilters {made : Noticed StepError OutputFilters}
    (h : ∀ c, made.outcome = .ok c → c.Fits k) :
    StoreEffect k s (some name) (bindFilters s name made).store := by
  unfold bindFilters
  split
  · next c hc =>
    have hfits : (Item.filters c).Fits k := h c hc
    exact .bind hfits
  · exact .none

theorem storeEffect_changeValue {otherwise : Fault} {f : Value → Except Fault Store}
    (h : ∀ old, s.find? name = some (.value old) → ∀ s', f old = .ok s' →
      StoreEffect k s none s') :
    StoreEffect k s none (changeValue s name otherwise f).store := by
  unfold changeValue
  split
  · exact .none
  · next old hold =>
    split
    · next s' hs' => exact h old hold s' hs'
    · exact .none
  · exact .none

theorem fits_of_target? (hs : s.Fits k) {t : Term} (ht : t.Proper s) {item : Item}
    (h : target? s t = some item) : item.Fits k := by
  cases t with
  | ref name => exact hs.find? h
  | _ =>
    obtain rfl := Option.some.inj h
    exact Term.fits_eval hs ht

theorem storeEffect_defined (hs : s.Fits k) {t : Term} (ht : t.Proper s) :
    StoreEffect k s (some name) (defined s name t) := by
  unfold defined
  split
  · next f hf => exact .bind (fits_of_target? hs ht hf)
  · next c hc => exact .bind (fits_of_target? hs ht hc)
  · exact .define (Term.fits_eval hs ht)

/-- An optional part that is not given fits when what stands in for it does. -/
theorem fits_part_getD (hs : s.Fits k) {t : Option Term} (ht : ∀ u ∈ t, u.Proper s) {v : Value}
    (hv : v.Fits k) : ((part s t).getD v).Fits k := by
  cases t with
  | none => exact hv
  | some u => exact Term.fits_eval hs (ht u rfl)

theorem fits_part (hs : s.Fits k) {t : Option Term} (ht : ∀ u ∈ t, u.Proper s) :
    ∀ v ∈ part s t, v.Fits k := by
  rintro v hv
  obtain ⟨u, hu, rfl⟩ := Option.map_eq_some_iff.mp hv
  exact Term.fits_eval hs (ht u hu)

end Step

/-- **Every step does one of these things.** -/
theorem storeEffect_run (hs : s.Fits k) {step : Step} (hstep : step.Proper s) :
    StoreEffect k s step.bound? (step.run s).store := by
  -- a step defines a value, changes one, binds a filter or filters, or leaves the store alone
  cases step with
  | define name t =>
    exact Step.storeEffect_defined hs (hstep t (by simp [Step.terms]))
  | append name t =>
    refine Step.storeEffect_changeValue fun old hold s' h => ?_
    have ht := Term.fits_eval hs (hstep t (by simp [Step.terms]))
    unfold Store.append at h
    split at h
    · next new hnew =>
      obtain rfl := Except.ok.inj h
      exact .change hold (Store.change_of_appended (hs.find? hold) ht hnew)
    · contradiction
  | put name key t =>
    refine Step.storeEffect_changeValue fun old hold s' h => ?_
    have hkey := Term.fits_eval hs (hstep key (by simp [Step.terms]))
    have ht := Term.fits_eval hs (hstep t (by simp [Step.terms]))
    unfold Store.put at h
    split at h
    · next new hnew =>
      obtain rfl := Except.ok.inj h
      exact .change hold (Store.change_of_assigned (hs.find? hold) hkey ht hnew)
    · contradiction
  | fromConfiguration name raw defaults =>
    refine Step.storeEffect_bindFilter fun f hf => ?_
    have hraw := Term.fits_eval hs (hstep raw (by simp [Step.terms]))
    have hdefaults : Term.ProperItems s defaults :=
      Term.properItems_iff.mpr fun t ht => hstep t (by simp [Step.terms, ht])
    exact NameFilter.fits_of_fromConfiguration hraw
      (Value.fitItems_iff.mp (Term.fits_evalItems hs hdefaults)) (Noticed.outcome_of_mapError_ok hf)
  | ofParts name globalNames namesByType =>
    refine Step.storeEffect_bindFilter fun f hf => ?_
    refine NameFilter.fits_of_ofParts (Step.fits_part hs fun t ht => ?_)
      (Step.fits_part hs fun t ht => ?_) (Noticed.outcome_of_mapError_ok hf)
    · exact hstep t (List.mem_append_left _ (by simpa using ht))
    · exact hstep t (List.mem_append_right _ (by simpa using ht))
  | configure name configuration extraExcludes extraIncludes =>
    refine Step.storeEffect_bindFilters fun c hc => ?_
    have hconfiguration := Term.fits_eval hs (hstep configuration (by simp [Step.terms]))
    have hnone : OutputFilters.noExtras.Fits k := by
      simp [OutputFilters.noExtras, Value.Fits, Value.FitItems, k.admits_none]
    refine OutputFilters.fits_of_build hconfiguration
      (Step.fits_part_getD hs (fun t ht => hstep t ?_) hnone)
      (Step.fits_part_getD hs (fun t ht => hstep t ?_) hnone) hc
    · exact List.mem_cons_of_mem _ (List.mem_append_left _ (by simpa using ht))
    · exact List.mem_cons_of_mem _ (List.mem_append_right _ (by simpa using ht))
  | newConfiguration name configuration =>
    refine Step.storeEffect_bindFilters fun c hc => ?_
    have hnone : OutputFilters.noExtras.Fits k := by
      simp [OutputFilters.noExtras, Value.Fits, Value.FitItems, k.admits_none]
    have hempty : OutputFilters.noConfiguration.Fits k := by
      simp [OutputFilters.noConfiguration, Value.Fits, Value.FitEntries, k.admits_none]
    refine OutputFilters.fits_of_build
      (Step.fits_part_getD hs (fun t ht => hstep t ?_) hempty) hnone hnone hc
    simpa [Step.terms] using ht
  | takeSide name filters side =>
    simp only [Step.run, Step.bound?]
    split
    · exact .none
    · next c hc =>
      refine Step.storeEffect_bindFilter fun f hf => ?_
      obtain rfl := Except.ok.inj hf
      have hfits : c.Fits k := hs.find? hc
      exact hfits.side side
    · exact .none
  | get | isEmpty | snapshot | matchesOwner | matchesType | namesFor | same | sameDigest
  | assignField | assignType =>
    simp only [Step.run, Step.store_ask, Step.store_askFilter, Step.store_compare]
    exact .none

/-! ## Labels go on fitting -/

namespace Store

theorem Fits.bind (hs : s.Fits k) {name : String} {item : Item} (h : item.Fits k) :
    (s.bind name item).Fits k := by
  refine ⟨?_, hs.fresh⟩
  rw [Store.bind, List.forall_mem_cons]
  exact ⟨h, hs.items⟩

theorem Fits.update (hs : s.Fits k) {l : Label} {new : Value} (hl : k l ≠ some .fixed)
    (hnew : new.Fits k) : (s.update l new).Fits k := by
  refine ⟨fun e he => ?_, hs.fresh⟩
  obtain ⟨⟨name, item⟩, he', rfl⟩ := List.mem_map.mp he
  have hitem := hs.items _ he'
  cases item with
  | value v => exact Value.Fits.update hl hnew hitem
  | filter f => exact NameFilter.Fits.update hitem hl hnew
  | filters c => exact ⟨hitem.excludes.update hl hnew, hitem.includes.update hl hnew⟩

/-- A new label does not clash with the ones that were given out. -/
theorem Fits.extends_fresh (hs : s.Fits k) (kind : LabelKind) :
    k.Extends (Function.update k s.labels (some kind)) := by
  intro l b hl
  have hne : l ≠ s.labels := by
    rintro rfl
    simp [hs.fresh s.labels le_rfl] at hl
  rw [Function.update_of_ne hne]
  exact hl

/-- A value fits when it gets a new label. -/
theorem fits_withLabel {v : Value} (h : v.Fits k) {l : Label}
    (hk : k.Extends (Function.update k l (some v.kind))) :
    (v.withLabel l).Fits (Function.update k l (some v.kind)) := by
  have hv := h.mono hk
  have hadmits : ∀ kind, LabelKinds.Admits (Function.update k l (some kind)) (some l) kind := by
    rintro kind l' hl'
    obtain rfl := Option.some.inj hl'
    simp
  cases v with
  | list label items | tuple label items | set label frozen items =>
    cases label with
    | some l' => exact hv
    | none =>
      rw [Value.Fits] at hv
      rw [Value.withLabel, Value.Fits]
      exact ⟨hadmits _, hv.2⟩
  | mapping label view entries =>
    cases label with
    | some l' => exact hv
    | none =>
      rw [Value.Fits, Value.kind_mapping] at hv
      rw [Value.withLabel, Value.Fits, Value.kind_mapping]
      exact ⟨hadmits _, hv.2⟩
  | date label _ | moment label _ | clock label _ =>
    cases label <;> simp [Value.withLabel, Value.Fits]
  | _ => simp [Value.withLabel, Value.Fits]

theorem Fits.define (hs : s.Fits k) {name : String} {v : Value} (h : v.Fits k) :
    (s.define name v).Fits (Function.update k s.labels (some v.kind)) := by
  have hk := hs.extends_fresh v.kind
  refine ⟨?_, fun l hl => ?_⟩
  · rw [Store.define, List.forall_mem_cons]
    exact ⟨fits_withLabel h hk, fun e he => (hs.items e he).mono hk⟩
  · have hl : s.labels + 1 ≤ l := hl
    have hne : l ≠ s.labels := by omega
    rw [Function.update_of_ne hne]
    exact hs.fresh l (by omega)

end Store

theorem Value.Change.ne_fixed {old new : Value} (h : Value.Change k old new) {l : Label}
    (hl : old.label? = some l) : k l ≠ some .fixed := by
  obtain ⟨hkind, hne⟩ := h.kind l hl
  rw [hkind]
  exact fun h => hne (Option.some.inj h)

/-- **A step keeps the labels of a store fitting**; those that were given out keep their kinds. -/
theorem StoreEffect.exists_fits {bound : Option String} (h : StoreEffect k s bound s')
    (hs : s.Fits k) : ∃ k' : LabelKinds, k.Extends k' ∧ s'.Fits k' := by
  cases h with
  | none => exact ⟨k, .refl k, hs⟩
  | bind fits => exact ⟨k, .refl k, hs.bind fits⟩
  | define fits => exact ⟨_, hs.extends_fresh _, hs.define fits⟩
  | change found change =>
    refine ⟨k, .refl k, ?_⟩
    unfold Store.change
    split
    · next l hl => exact hs.update (change.ne_fixed hl) change.fits
    · exact hs.bind change.fits

/-- A session keeps the labels of a store fitting. -/
theorem exists_fits_runSteps {steps : List Step} (hs : s.Fits k) (hsteps : ProperSteps s steps) :
    ∃ k' : LabelKinds, k.Extends k' ∧ (runSteps s steps).2.Fits k' := by
  induction steps generalizing s k with
  | nil => exact ⟨k, .refl k, hs⟩
  | cons step steps ih =>
    obtain ⟨k₁, hk₁, hs₁⟩ := (storeEffect_run hs hsteps.1).exists_fits hs
    obtain ⟨k₂, hk₂, hs₂⟩ := ih hs₁ hsteps.2
    exact ⟨k₂, hk₁.trans hk₂, hs₂⟩

end PropertyFilter
