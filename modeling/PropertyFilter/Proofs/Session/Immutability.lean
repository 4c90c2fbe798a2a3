import PropertyFilter.Proofs.Session.Effects
import PropertyFilter.Proofs.Session.Resemblance

/-!
# Filters do not change

A filter, or a pair of filters, whose names by type are texts is the same for good once it has been
made: it gives every question the answer that it gave then, whatever is done to the values that it
was made from, and it cannot be changed itself. Making it changes nothing else.

## Main definitions

* `Step.asked?`: the thing that a step asks a question
* `Immutable`: what a session cannot do to a thing

## Main results

* `StoreEffect.resembleUnder`: what one step leaves under the names that it does not bind
* `runSteps_resembleUnder`: what a whole session leaves there
* `answer_eq_of_settled`: questions about a settled thing are answered as before
* `runSteps_immutable`: filters do not change
-/

namespace PropertyFilter

variable {k : LabelKinds} {s s' : Store} {name : String}

/-! ## One step -/

namespace Store

theorem find?_bind_of_ne {item : Item} {other : String} (h : other ≠ name) :
    (s.bind name item).find? other = s.find? other := by
  simp [Store.find?, Store.bind, h.symm]

theorem find?_define_of_ne {v : Value} {other : String} (h : other ≠ name) :
    (s.define name v).find? other = s.find? other := by
  simp [Store.find?, Store.define, h.symm]

theorem find?_update {l : Label} {new : Value} :
    (s.update l new).find? name = (s.find? name).map (Item.update l new) := by
  simp only [Store.find?, Store.update, List.find?_map, Option.map_map]
  rfl

end Store

/-- **A step leaves what it does not bind**, or makes it into something that resembles it. -/
theorem StoreEffect.resembleUnder {bound : Option String} (h : StoreEffect k s bound s')
    (hs : s.Fits k) (hname : bound ≠ some name) : Store.ResembleUnder name s s' := by
  cases h with
  | none => exact .of_eq rfl
  | @bind other item fits => exact .of_eq (Store.find?_bind_of_ne fun h => hname (by rw [h]))
  | @define other v fits => exact .of_eq (Store.find?_define_of_ne fun h => hname (by rw [h]))
  | @change other old new found change =>
    unfold Store.change
    split
    · next l hl =>
      obtain ⟨hkind, hne⟩ := change.kind l hl
      rw [Store.ResembleUnder, Store.find?_update]
      cases ho : s.find? name with
      | none => exact .none
      | some o => exact .some (Item.resembles_update hkind hne (hs.find? ho))
    · by_cases hother : name = other
      · subst hother
        rw [Store.ResembleUnder, found, Store.find?_bind_self]
        exact .some (.value (Value.resembles_of_typeName change.typeName change.old_not_searchable
          change.new_not_searchable))
      · exact .of_eq (Store.find?_bind_of_ne hother)

/-! ## Whole sessions -/

/-- **A session leaves what it does not bind**, or makes it into something that resembles it. -/
theorem runSteps_resembleUnder {steps : List Step} (hs : s.Fits k) (hsteps : ProperSteps s steps)
    (hname : ∀ step ∈ steps, step.bound? ≠ some name) :
    Store.ResembleUnder name s (runSteps s steps).2 := by
  induction steps generalizing s k with
  | nil => exact .of_eq rfl
  | cons step steps ih =>
    rw [List.forall_mem_cons] at hname
    have heffect := storeEffect_run hs hsteps.1
    obtain ⟨k', -, hs'⟩ := heffect.exists_fits hs
    exact (heffect.resembleUnder hs hname.1).trans (ih hs' hsteps.2 hname.2)

/-! ## Questions -/

/-- The name of the thing that a step asks a question. -/
def Step.asked? : Step → Option String
  | .matchesOwner on _ _ | .matchesType on _ _ | .namesFor on _ | .isEmpty on | .snapshot on
  | .same on _ | .sameDigest on _ | .get on => some on
  | _ => none

namespace Step

variable {item o o' : Item}

/-- A question about one thing is answered alike in two stores. -/
theorem answer_ask_congr {question question' : Item → Except Fault Answer}
    (hfound : s.find? name = some item) (hfound' : s'.find? name = some item)
    (h : question' item = question item) :
    (ask s' name question').answer = (ask s name question).answer := by
  simp [ask, hfound, hfound', answered, h]

/-- A question about one filter is answered alike in two stores. -/
theorem answer_askFilter_congr {question question' : NameFilter → Except Fault Answer}
    (hfound : s.find? name = some item) (hfound' : s'.find? name = some item)
    (h : ∀ f, question' f = question f) :
    (askFilter s' name question').answer = (askFilter s name question).answer := by
  refine answer_ask_congr hfound hfound' ?_
  cases item with
  | filter f => exact h f
  | _ => rfl

/-- Things that resemble each other are the same to a settled thing, or both are not. -/
theorem sameItem_congr (hitem : item.Settled) (h : o.Resembles o') :
    sameItem item o' = sameItem item o := by
  cases item with
  | value v => exact hitem.elim
  | filter f =>
    cases h with
    | filter h => exact h.same f hitem
    | _ => rfl
  | filters c =>
    cases h with
    | filters hexcludes hincludes =>
      simp only [sameItem, OutputFilters.same, hexcludes.same _ hitem.1, hincludes.same _ hitem.2]
    | _ => rfl

/-- Things that resemble each other have the same digest, or both have none. -/
theorem itemDigest_congr (h : o.Resembles o') : itemDigest o' = itemDigest o := by
  cases h with
  | @value v v' h =>
    simp only [itemDigest, h.isHashable]
    split
    · next hv => rw [h.eq_of_isHashable hv]
    · rfl
  | filter h => simp only [itemDigest, h.digest]
  | filters hexcludes hincludes =>
    simp only [itemDigest, OutputFilters.digest, hexcludes.digest, hincludes.digest]

theorem target?_rel {t : Term} (ht : t.Proper s)
    (h : ∀ n ∈ t.mentions, Store.ResembleUnder n s s') :
    Option.Rel Item.Resembles (target? s t) (target? s' t) := by
  cases t with
  | ref n => exact h n (by simp [Term.mentions])
  | _ => exact .some (.value (Term.resembles_eval ht h))

/-- A comparison with a thing goes by what the thing is in common with what resembles it. -/
theorem answer_compare_congr {other : Term} {f : Item → Item → Except Fault Bool}
    (hfound : s.find? name = some item) (hfound' : s'.find? name = some item)
    (ht : other.Proper s) (h : ∀ n ∈ other.mentions, Store.ResembleUnder n s s')
    (hf : ∀ o o', Item.Resembles o o' → f item o' = f item o) :
    (compare s' name other f).answer = (compare s name other f).answer := by
  have hrel := target?_rel ht h
  unfold compare
  generalize target? s other = o at hrel ⊢
  generalize target? s' other = o' at hrel ⊢
  cases hrel with
  | none => rfl
  | some hresembles => exact answer_ask_congr hfound hfound' (by rw [hf _ _ hresembles])

end Step

/-- **Questions about a settled thing** are answered in a later store as before, if everything that
a question mentions is what it was then, or resembles it. -/
theorem answer_eq_of_settled {item : Item} {q : Step} (hfound : s.find? name = some item)
    (hitem : item.Settled) (hthing : Store.ResembleUnder name s s') (hasked : q.asked? = some name)
    (hq : q.Proper s) (h : ∀ t ∈ q.terms, ∀ n ∈ t.mentions, Store.ResembleUnder n s s') :
    (q.run s').answer = (q.run s).answer := by
  have hfound' : s'.find? name = some item := by
    rw [Store.ResembleUnder, hfound] at hthing
    generalize s'.find? name = o at hthing ⊢
    cases hthing with | some hresembles => rw [hresembles.eq_of_settled hitem]
  have heval : ∀ t ∈ q.terms, (t.eval s).Resembles (t.eval s') := fun t ht =>
    Term.resembles_eval (hq t ht) (h t ht)
  cases q with
  | matchesOwner on owner property =>
    obtain rfl := Option.some.inj hasked
    simp only [Step.terms, List.forall_mem_cons] at heval
    refine Step.answer_askFilter_congr hfound hfound' fun f => ?_
    rw [NameFilter.matchesOwner_congr heval.1 heval.2.1]
  | matchesType on typeId property =>
    obtain rfl := Option.some.inj hasked
    simp only [Step.terms, List.forall_mem_cons] at heval
    refine Step.answer_askFilter_congr hfound hfound' fun f => ?_
    rw [NameFilter.matchesType_congr heval.1 heval.2.1]
  | namesFor on typeId =>
    obtain rfl := Option.some.inj hasked
    simp only [Step.terms, List.forall_mem_cons] at heval
    refine Step.answer_askFilter_congr hfound hfound' fun f => ?_
    rw [NameFilter.namesFor_congr heval.1]
  | isEmpty on | snapshot on | get on =>
    obtain rfl := Option.some.inj hasked
    exact Step.answer_ask_congr hfound hfound' rfl
  | same on other =>
    obtain rfl := Option.some.inj hasked
    have hother : other ∈ (Step.same on other).terms := by simp [Step.terms]
    refine Step.answer_compare_congr hfound hfound' (hq _ hother) (h _ hother) fun o o' ho => ?_
    rw [Step.sameItem_congr hitem ho]
  | sameDigest on other =>
    obtain rfl := Option.some.inj hasked
    have hother : other ∈ (Step.sameDigest on other).terms := by simp [Step.terms]
    refine Step.answer_compare_congr hfound hfound' (hq _ hother) (h _ hother) fun o o' ho => ?_
    rw [Step.sameDigestItem, Step.sameDigestItem, Step.itemDigest_congr ho]
  | _ => contradiction

/-! ## Filters do not change -/

/-- What a step answers when it makes or shows a thing. -/
def Item.answer : Item → Answer
  | value v => .value v
  | filter f => .filter f
  | filters c => .filters c

/-- What a session cannot do to a thing: after the steps `after`, which lead from one store to the
other, the thing under the name is still there, answers every question as before, and refuses to be
changed. -/
structure Immutable (name : String) (item : Item) (after : List Step) (made last : Store) :
    Prop where
  found : last.find? name = some item
  /-- A question may mention other things, as long as their names are not bound anew. -/
  answer : ∀ q : Step, q.asked? = some name → q.Proper made →
    (∀ t ∈ q.terms, ∀ n ∈ t.mentions, ∀ step ∈ after, step.bound? ≠ some n) →
    (q.run last).answer = (q.run made).answer
  assignField : ∀ field value, Step.run last (.assignField name field value) =
    ⟨last, .ofExcept (.error (.fault .frozen))⟩
  assignType : ∀ f, item = .filter f → ∀ typeId names,
    Step.run last (.assignType name typeId names) =
      ⟨last, .ofExcept (.error (.fault .unsuitable))⟩
  /-- The filters of a pair are taken out of it to be changed. -/
  assignSideType : ∀ c, item = .filters c → ∀ side other typeId names,
    let taken := Step.run last (.takeSide other name side)
    taken.answer.outcome = .ok (.filter (c.side side)) ∧
      Step.run taken.store (.assignType other typeId names) =
        ⟨taken.store, .ofExcept (.error (.fault .unsuitable))⟩

namespace Step

/-- A failure leaves the store as it is, and what a step answers with stands under the name. -/
structure Binds (name : String) (s : Store) (r : StepResult) : Prop where
  error : ∀ e, r.answer.outcome = .error e → r.store = s
  ok : ∀ item : Item, r.answer.outcome = .ok item.answer → r.store.find? name = some item

theorem binds_bindFilter (made : Noticed StepError NameFilter) :
    Binds name s (bindFilter s name made) := by
  unfold bindFilter
  split
  · refine ⟨fun e he => by contradiction, fun item h => ?_⟩
    have hitem := Except.ok.inj h
    cases item with
    | filter f => exact (Answer.filter.inj hitem) ▸ Store.find?_bind_self s name _
    | _ => contradiction
  · exact ⟨fun _ _ => rfl, fun item h => by contradiction⟩

theorem binds_bindFilters (made : Noticed StepError OutputFilters) :
    Binds name s (bindFilters s name made) := by
  unfold bindFilters
  split
  · refine ⟨fun e he => by contradiction, fun item h => ?_⟩
    have hitem := Except.ok.inj h
    cases item with
    | filters c => exact (Answer.filters.inj hitem) ▸ Store.find?_bind_self s name _
    | _ => contradiction
  · exact ⟨fun _ _ => rfl, fun item h => by contradiction⟩

theorem binds_run {step : Step} (h : step.bound? = some name) : Binds name s (step.run s) := by
  have hquiet : ∀ (r : StepResult) (a : Answer), r.answer.outcome = .ok a →
      (∀ item : Item, item.answer ≠ a) → Binds name s r := by
    intro r a hr ha
    exact ⟨fun e he => by simp [hr] at he, fun item hitem =>
      absurd (Except.ok.inj (hitem.symm.trans hr)) (ha item)⟩
  cases step with
  | fromConfiguration | ofParts =>
    obtain rfl := Option.some.inj h
    exact binds_bindFilter _
  | configure | newConfiguration =>
    obtain rfl := Option.some.inj h
    exact binds_bindFilters _
  | define n t => exact hquiet _ .done rfl fun item => by cases item <;> simp [Item.answer]
  | takeSide n filters side =>
    obtain rfl := Option.some.inj h
    simp only [run]
    split
    · exact hquiet _ .skipped rfl fun item => by cases item <;> simp [Item.answer]
    · exact binds_bindFilter _
    · exact ⟨fun _ _ => rfl, fun item h => by contradiction⟩
  | _ => contradiction

end Step

/-- Making a thing leaves everything under other names as it is. -/
theorem StoreEffect.find?_of_ne (h : StoreEffect k s (some name) s') {other : String}
    (hother : other ≠ name) : s'.find? other = s.find? other := by
  cases h with
  | none => rfl
  | bind => exact Store.find?_bind_of_ne hother
  | define => exact Store.find?_define_of_ne hother

/-- A settled thing is not changed by steps that do not bind its name. -/
theorem immutable_of_settled {item : Item} {after : List Step} (hs : s.Fits k)
    (hfound : s.find? name = some item) (hitem : item.Settled) (hafter : ProperSteps s after)
    (hname : ∀ step ∈ after, step.bound? ≠ some name) :
    Immutable name item after s (runSteps s after).2 := by
  have hresembles := runSteps_resembleUnder hs hafter hname
  have hlast : (runSteps s after).2.find? name = some item := by
    rw [Store.ResembleUnder, hfound] at hresembles
    generalize (runSteps s after).2.find? name = o at hresembles ⊢
    cases hresembles with | some h => rw [h.eq_of_settled hitem]
  refine ⟨hlast, fun q hasked hq hmentions => ?_, fun field value => ?_, ?_, ?_⟩
  · refine answer_eq_of_settled hfound hitem hresembles hasked hq fun t ht n hn => ?_
    exact runSteps_resembleUnder hs hafter (hmentions t ht n hn)
  · cases item with
    | value v => exact hitem.elim
    | filter f | filters c =>
      simp only [Step.run, Step.ask, hlast]
      rfl
  · rintro f rfl typeId names
    simp only [Step.run, Step.ask, hlast]
    rfl
  · rintro c rfl side other typeId names
    simp only [Step.run, hlast, Step.bindFilter, Noticed.done, Step.bound, Step.ask,
      Store.find?_bind_self]
    exact ⟨trivial, rfl⟩

/-- **Filters do not change.** A step of a session makes a filter or a pair of filters, or gives one
another name. It leaves everything else as it was, and if all names by type are texts, the rest of
the session does not change the thing, as long as its name is not bound anew. -/
theorem runSteps_immutable {before after : List Step} {make : Step} (hmake : make.bound? = some name)
    (hproper : ProperSteps .empty (before ++ make :: after))
    (hafter : ∀ step ∈ after, step.bound? ≠ some name) :
    let s := (runSteps .empty before).2
    let made := make.run s
    (∀ other, other ≠ name → made.store.find? other = s.find? other) ∧
      (∀ e, made.answer.outcome = .error e → made.store = s) ∧
      (∀ item : Item, made.answer.outcome = .ok item.answer →
        made.store.find? name = some item) ∧
      ∀ item, made.store.find? name = some item → item.Settled →
        Immutable name item after made.store (runSteps made.store after).2 := by
  intro s made
  rw [properSteps_append] at hproper
  obtain ⟨hbefore, hstep, hrest⟩ := hproper
  obtain ⟨k, -, hs⟩ := exists_fits_runSteps Store.fits_empty hbefore
  have heffect := storeEffect_run hs hstep
  obtain ⟨k', -, hmade⟩ := heffect.exists_fits hs
  rw [hmake] at heffect
  have hbinds : Step.Binds name s made := Step.binds_run hmake
  refine ⟨fun other hother => heffect.find?_of_ne hother, hbinds.error, hbinds.ok, ?_⟩
  exact fun item hfound hitem => immutable_of_settled hmade hfound hitem hrest hafter

/-- The case of a shared list of names that grows after a filter has been made from it. -/
theorem runSteps_immutable_shared_list :
    let before := [Step.define "ids" (.list [.value (.text "id")])]
    let make := Step.fromConfiguration "f" (.mapping false [(.value (.text "User"), .ref "ids")]) []
    let after := [Step.append "ids" (.value (.text "name"))]
    let made := make.run (runSteps .empty before).2
    let last := (runSteps made.store after).2
    last.value? "ids" = some (.list (some 0) [.text "id", .text "name"]) ∧
      Immutable "f" (.filter ⟨[], [(.text "User", [.text "id"])]⟩) after made.store last := by
  refine ⟨rfl, ?_⟩
  refine (@runSteps_immutable "f" _ _ _ rfl ?_ ?_).2.2.2 _ rfl ?_
  · simp [ProperSteps, Step.Proper, Step.terms, Term.Proper, Term.ProperItems, Term.ProperEntries,
      Value.Fits]
  · simp [Step.bound?]
  · simp [Item.Settled, NameFilter.Settled]

end PropertyFilter
