import PropertyFilter.Proofs.Terminal.Tinting
import PropertyFilter.Proofs.Value.Sameness

/-!
# Decisions about colour

Colours are decided when the forced value changes, and the decision is kept until it changes again.
Whatever has happened before, a forced value is the decision; where nothing is forced, the decision
is what was detected in the environment of the last change. Output that is not to be coloured goes
through a deleting layer.

## Main definitions

* `ColorState.Sound`: what holds of colour support at all times
* `ColorSupport.TurnsOff`: a step that changes the forced value so that there are no colours
* `LastChange e before after`: in a history that begins in `e`, the forced value has last changed at
  the end of `before`

## Main results

* `ColorSupport.take_cases`: what one step does
* `ColorSupport.sound_run`: colour support is sound at all times
* `ColorSupport.fault_take_force_eq_none_iff`: which wishes are taken
* `ColorSupport.supported_take_force_bool`: forcing a truth value makes it the decision
* `ColorSupport.deliver_of_off`: without colours coloured text arrives plain
* `ColorSupport.layers_run_eq_iff`: when no layer is put around the streams
* `LastChange.state_eq`: nothing of colour support changes after the last change
* `ColorSupport.run_decision`: the decision, after any history
-/

namespace PropertyFilter

open Number (Binary64)

namespace Value

/-! ## Truth values, and what is the same -/

theorem numeric?_of_same_bool {v : Value} {b : Bool} (h : v.same (bool b) = true) :
    v.numeric? = (bool b).numeric? := by
  cases v with
  | bool c | int c | float c =>
    rw [same_of_numeric _ rfl] at h
    exact beq_iff_eq.mp h
  | _ => simp only [same, numeric?, Bool.false_eq_true] at h

theorem numeric?_of_bool_same {v : Value} {b : Bool} (h : (bool b).same v = true) :
    v.numeric? = (bool b).numeric? := by
  rw [same_of_numeric _ rfl] at h
  exact (beq_iff_eq.mp h).symm

/-- Whatever has the numeric value of a truth value counts as that truth value. -/
theorem isTruthy_of_numeric? {v : Value} {b : Bool} (h : v.numeric? = (bool b).numeric?) :
    v.isTruthy = b := by
  have hbool : (bool b).isTruthy = _ := isTruthy_of_numeric rfl
  exact (isTruthy_of_numeric h).trans hbool.symm

/-- Whatever a truth value is the same as counts as that truth value. -/
theorem isTruthy_of_bool_same {v : Value} {b : Bool} (h : (bool b).same v = true) :
    v.isTruthy = b :=
  isTruthy_of_numeric? (numeric?_of_bool_same h)

/-- Whatever is the same as a truth value is the same as itself; an undefined number is not. -/
theorem same_self_of_same_bool {v : Value} {b : Bool} (h : v.same (bool b) = true) :
    v.same v = true := by
  have hv := numeric?_of_same_bool h
  rw [same_of_numeric _ hv, hv]
  exact beq_self_eq_true _

end Value

namespace Terminal

/-! ## Colour support at all times -/

namespace ColorState

/-- A forced value that a caller can ask for: it is the same as one of the truth values. -/
def Proper (forced : Option Value) : Prop := ∀ v ∈ forced, ∃ b, v.same (.bool b) = true

/-- What holds of colour support at all times. -/
structure Sound (s : ColorState) : Prop where
  proper : Proper s.forced
  /-- The forced value is the decision. -/
  decided : ∀ v ∈ s.forced, s.supported = v
  /-- There is a deleting layer around both streams unless there are colours. -/
  layered : s.isOn = false → 0 < s.layers

variable {s s' : ColorState} {e : Environment} {forced : Option Value} {wish v : Value}

theorem proper_forced (e : Environment) : Proper e.forced := by
  unfold Environment.forced
  rintro v hv
  split at hv
  · obtain rfl := Option.some.inj hv
    exact ⟨false, Value.same_bool_self false⟩
  split at hv
  · obtain rfl := Option.some.inj hv
    exact ⟨true, Value.same_bool_self true⟩
  · contradiction

/-- A decision is sound, over any number of layers. -/
theorem sound_decide (hforced : Proper forced) (e : Environment) (layers : Nat) :
    (decide e forced layers).Sound where
  proper := hforced
  decided := by
    rintro v (rfl : forced = some v)
    rfl
  layered := by
    intro hoff
    have hlayers : (decide e forced layers).layers = layers + 1 := by
      simpa [isOn, decide] using hoff
    omega

/-- What a caller can ask for is proper. -/
theorem proper_of_target? {t : Option Value} (h : target? e wish = some t) : Proper t := by
  unfold target? at h
  split at h
  · obtain rfl := Option.some.inj h
    exact proper_forced e
  · split at h
    · next hwish =>
      obtain rfl := Option.some.inj h
      rintro v (hv : some wish = some v)
      obtain rfl := Option.some.inj hv
      rw [Bool.or_eq_true] at hwish
      exact hwish.elim (⟨true, ·⟩) (⟨false, ·⟩)
    · contradiction

/-- A wish is refused unless it is nothing, or the same as a truth value. -/
theorem target?_eq_none_iff :
    target? e wish = none ↔
      wish ≠ .null ∧ wish.same (.bool true) = false ∧ wish.same (.bool false) = false := by
  unfold target?
  split
  · simp
  · next hwish =>
    have hwish' : wish ≠ .null := hwish
    simp [hwish']

/-- A truth value can always be forced. -/
theorem exists_force_bool (s : ColorState) (e : Environment) (b : Bool) :
    ∃ s', s.force e (.bool b) = .ok s' := by
  cases b <;> simp [force, target?, Value.same_bool_self]

/-- A proper forced value is the same as itself. -/
theorem sameForced_self (h : Proper forced) : sameForced forced forced = true := by
  cases forced with
  | none => rfl
  | some v =>
    obtain ⟨b, hb⟩ := h v rfl
    exact Value.same_self_of_same_bool hb

/-- A value that is the same as the forced one is the same as the decision. -/
theorem same_supported_of_sameForced (hs : s.Sound)
    (h : sameForced (some v) s.forced = true) : v.same s.supported = true := by
  cases hforced : s.forced with
  | none => simp [sameForced, hforced] at h
  | some w =>
    rw [hs.decided w hforced]
    simpa [sameForced, hforced] using h

/-- **Forcing a truth value**, or what is the same as one: the decision is the same as the wish,
whether it was so before or is taken anew. -/
theorem same_supported_of_force (hs : s.Sound) (hwish : wish ≠ .null)
    (hforce : s.force e wish = .ok s') : wish.same s'.supported = true := by
  have hself : ∀ t, target? e wish = some t → t = some wish ∧ wish.same wish = true := by
    intro t ht
    have hproper := proper_of_target? ht
    rw [target?.eq_2 e wish hwish] at ht
    split at ht
    · obtain rfl := Option.some.inj ht
      exact ⟨rfl, sameForced_self hproper⟩
    · contradiction
  unfold force at hforce
  split at hforce
  · contradiction
  · next t ht =>
    obtain ⟨rfl, hsame⟩ := hself t ht
    obtain rfl := Except.ok.inj hforce
    split
    · next hkept => exact same_supported_of_sameForced hs hkept
    · exact hsame

end ColorState

namespace ColorSupport

open ColorState (Proper Sound)

variable {c : ColorSupport} {e : Environment}

/-- **One step** leaves the state of colour support as it is, or takes the decision anew for a
forced value that was not forced before. -/
theorem take_cases (hc : c.state.Sound) (step : ColorStep) :
    (c.take step).1.state = c.state ∨
      ∃ forced, Proper forced ∧ forced ≠ c.state.forced ∧
        (c.take step).1 = { c with state := .decide c.environment forced c.state.layers } := by
  cases step with
  | surround e => exact .inl rfl
  | force wish =>
    cases htarget : ColorState.target? c.environment wish with
    | none =>
      left
      simp only [take, ColorState.force, htarget]
    | some t =>
      by_cases hsame : ColorState.sameForced t c.state.forced = true
      · left
        simp only [take, ColorState.force, htarget, hsame, if_true]
      · refine .inr ⟨t, ColorState.proper_of_target? htarget, ?_, ?_⟩
        · rintro rfl
          exact hsame (ColorState.sameForced_self hc.proper)
        · simp only [take, ColorState.force, htarget, hsame, if_false, Bool.false_eq_true]

theorem sound_take (hc : c.state.Sound) (step : ColorStep) : (c.take step).1.state.Sound := by
  rcases take_cases hc step with hkept | ⟨forced, hforced, -, hdecided⟩
  · rw [hkept]
    exact hc
  · rw [hdecided]
    exact ColorState.sound_decide hforced _ _

/-- **Colour support is sound at all times.** -/
theorem sound_run (e : Environment) (steps : List ColorStep) :
    ((start e).run steps).state.Sound := by
  induction steps using List.reverseRecOn with
  | nil => exact ColorState.sound_decide (ColorState.proper_forced e) e 0
  | append_singleton steps step ih =>
    rw [run_snoc]
    exact sound_take ih step

/-! ### Forcing colours -/

variable {wish : Value}

/-- **A wish that is refused** changes nothing. -/
theorem take_force_of_refused (h : ColorState.target? c.environment wish = none) :
    c.take (.force wish) = (c, some .malformed) := by
  simp only [take, ColorState.force, h]

theorem fault_take_force {t : Option Value} (h : ColorState.target? c.environment wish = some t) :
    (c.take (.force wish)).2 = none := by
  simp only [take, ColorState.force, h]

/-- **Which wishes are taken**: nothing, and what is the same as a truth value. -/
theorem fault_take_force_eq_none_iff :
    (c.take (.force wish)).2 = none ↔
      wish = .null ∨ wish.same (.bool true) = true ∨ wish.same (.bool false) = true := by
  have hrefused : ColorState.target? c.environment wish = none ↔ _ :=
    ColorState.target?_eq_none_iff
  cases htarget : ColorState.target? c.environment wish with
  | none =>
    obtain ⟨hnull, htrue, hfalse⟩ := hrefused.mp htarget
    simp [take_force_of_refused htarget, hnull, htrue, hfalse]
  | some t =>
    refine iff_of_true (fault_take_force htarget) ?_
    by_contra hwish
    push Not at hwish
    have hnone := hrefused.mpr (by simpa using hwish)
    cases htarget.symm.trans hnone

/-- **Forcing a truth value** makes it the decision. -/
theorem supported_take_force_bool (hc : c.state.Sound) (b : Bool) :
    (Value.bool b).same (c.take (.force (.bool b))).1.state.supported = true ∧
      (c.take (.force (.bool b))).1.state.isOn = b := by
  obtain ⟨s', hforce⟩ := c.state.exists_force_bool c.environment b
  have hsame := ColorState.same_supported_of_force hc (by simp) hforce
  have htake : (c.take (.force (.bool b))).1.state = s' := by
    simp only [take, hforce]
  rw [htake]
  exact ⟨hsame, Value.isTruthy_of_bool_same hsame⟩

/-- **Without colours** coloured text arrives plain. -/
theorem deliver_of_off (hc : c.state.Sound) (hoff : c.state.isOn = false)
    {coloured plain : List Char} (h : Tinted coloured plain) :
    deliver c.state.layers coloured = ⟨plain, none⟩ := by
  obtain ⟨layers, hlayers⟩ := Nat.exists_eq_add_of_lt (hc.layered hoff)
  rw [hlayers, Nat.zero_add]
  exact h.deliver_succ layers

/-! ### Layers -/

/-- A step that changes the forced value so that there are no colours. -/
def TurnsOff (c : ColorSupport) (step : ColorStep) : Prop :=
  (c.take step).1.state.forced ≠ c.state.forced ∧ (c.take step).1.state.isOn = false

/-- **A layer is put around the streams** by a step that turns colours off, and by no other. -/
theorem layers_take (hc : c.state.Sound) (step : ColorStep) :
    (c.TurnsOff step → (c.take step).1.state.layers = c.state.layers + 1) ∧
      (¬ c.TurnsOff step → (c.take step).1.state.layers = c.state.layers) := by
  unfold TurnsOff
  rcases take_cases hc step with hkept | ⟨forced, -, hchanged, hdecided⟩
  · rw [hkept]
    exact ⟨fun h => absurd rfl h.1, fun _ => rfl⟩
  · rw [hdecided]
    simp only [ColorState.isOn, ColorState.decide]
    cases (ColorState.decision c.environment forced).isTruthy with
    | false => exact ⟨fun _ => rfl, fun h => absurd ⟨hchanged, rfl⟩ h⟩
    | true => exact ⟨fun h => absurd h.2 Bool.noConfusion, fun _ => rfl⟩

theorem layers_le_take (hc : c.state.Sound) (step : ColorStep) :
    c.state.layers ≤ (c.take step).1.state.layers := by
  obtain ⟨hmore, hsame⟩ := layers_take hc step
  by_cases hoff : c.TurnsOff step
  · rw [hmore hoff]
    exact Nat.le_succ _
  · exact (hsame hoff).ge

theorem layers_le_run (hc : c.state.Sound) (steps : List ColorStep) :
    c.state.layers ≤ (c.run steps).state.layers := by
  induction steps generalizing c with
  | nil => exact Nat.le_refl _
  | cons step steps ih => exact (layers_le_take hc step).trans (ih (sound_take hc step))

/-- **No layer is put around the streams** during steps none of which turns colours off, and only
then. -/
theorem layers_run_eq_iff (hc : c.state.Sound) (steps : List ColorStep) :
    (c.run steps).state.layers = c.state.layers ↔
      ∀ done step rest, steps = done ++ step :: rest → ¬ (c.run done).TurnsOff step := by
  -- layers are never taken away, so there are as many as before only if no step has added one
  induction steps generalizing c with
  | nil => simp
  | cons first steps ih =>
    have hfirst := layers_le_take hc first
    have hrest := layers_le_run (sound_take hc first) steps
    obtain ⟨hmore, hsame⟩ := layers_take hc first
    have ih := ih (sound_take hc first)
    rw [show c.run (first :: steps) = (c.take first).1.run steps from rfl]
    constructor
    · intro hlayers done step rest hsplit
      have hon : ¬ c.TurnsOff first := by
        intro hoff
        have hadded := hmore hoff
        omega
      have hsteps := ih.mp (by omega)
      rcases List.cons_eq_append_iff.mp hsplit with ⟨rfl, hcons⟩ | ⟨done', rfl, hsplit'⟩
      · obtain ⟨rfl, -⟩ := List.cons.inj hcons
        exact hon
      · exact hsteps done' step rest hsplit'
    · intro hon
      have hlayers := hsame (hon [] first steps rfl)
      refine (ih.mpr fun done step rest hsplit => ?_).trans hlayers
      exact hon (first :: done) step rest (by rw [hsplit]; rfl)

end ColorSupport

/-! ## The last change -/

open ColorSupport (start)

/-- In a history that begins in an environment, the forced value has last changed at the end of
`before`, with its last step or at the start of everything; it has been kept during `after`. -/
structure LastChange (e : Environment) (before after : List ColorStep) : Prop where
  changed : before = [] ∨ ∃ earlier step, before = earlier ++ [step] ∧
    ((start e).run before).state.forced ≠ ((start e).run earlier).state.forced
  kept : ∀ during, during <+: after →
    ((start e).run (before ++ during)).state.forced = ((start e).run before).state.forced

namespace LastChange

variable {e : Environment} {before after : List ColorStep}

/-- Where no step follows, the last change is that of the last step. -/
theorem of_changed (h : before = [] ∨ ∃ earlier step, before = earlier ++ [step] ∧
    ((start e).run before).state.forced ≠ ((start e).run earlier).state.forced) :
    LastChange e before [] where
  changed := h
  kept := by
    intro during hduring
    rw [List.prefix_nil.mp hduring, List.append_nil]

/-- A step that keeps the forced value leaves the last change where it was. -/
theorem snoc (h : LastChange e before after) {step : ColorStep}
    (hkept : ((start e).run (before ++ (after ++ [step]))).state.forced =
      ((start e).run (before ++ after)).state.forced) : LastChange e before (after ++ [step]) where
  changed := h.changed
  kept := by
    intro during hduring
    rcases List.prefix_concat_iff.mp hduring with rfl | hduring
    · rw [hkept]
      exact h.kept after List.prefix_rfl
    · exact h.kept during hduring

/-- Every history has a last change. -/
theorem exists_split (e : Environment) (steps : List ColorStep) :
    ∃ before after, steps = before ++ after ∧ LastChange e before after := by
  induction steps using List.reverseRecOn with
  | nil => exact ⟨[], [], rfl, of_changed (.inl rfl)⟩
  | append_singleton steps step ih =>
    obtain ⟨before, after, rfl, hlast⟩ := ih
    by_cases hkept : ((start e).run (before ++ after ++ [step])).state.forced =
        ((start e).run (before ++ after)).state.forced
    · refine ⟨before, after ++ [step], List.append_assoc before after [step], hlast.snoc ?_⟩
      rw [← List.append_assoc]
      exact hkept
    · exact ⟨before ++ after ++ [step], [], (List.append_nil _).symm,
        of_changed (.inr ⟨_, step, rfl, hkept⟩)⟩

/-- **Nothing of colour support changes after the last change**, in whatever environment. -/
theorem state_eq (h : LastChange e before after) :
    ((start e).run (before ++ after)).state = ((start e).run before).state := by
  obtain ⟨-, hkept⟩ := h
  induction after using List.reverseRecOn with
  | nil => rw [List.append_nil]
  | append_singleton after step ih =>
    have hbefore := ih fun during hduring =>
      hkept during (hduring.trans (List.prefix_append after [step]))
    have hforced := hkept (after ++ [step]) List.prefix_rfl
    rw [← List.append_assoc, ColorSupport.run_snoc] at hforced ⊢
    rcases ColorSupport.take_cases (ColorSupport.sound_run e (before ++ after)) step with
      hstate | ⟨forced, -, hchanged, hdecided⟩
    · rw [hstate, hbefore]
    · rw [hdecided] at hforced
      rw [hbefore] at hchanged
      exact absurd hforced hchanged

/-- At the last change, the decision is taken in the environment of that moment. -/
theorem supported_before (h : LastChange e before after) :
    ((start e).run before).state.supported =
      ColorState.decision ((start e).run before).environment
        ((start e).run before).state.forced := by
  rcases h.changed with rfl | ⟨earlier, step, rfl, hchanged⟩
  · rfl
  · rw [ColorSupport.run_snoc] at hchanged ⊢
    rcases ColorSupport.take_cases (ColorSupport.sound_run e earlier) step with
      hstate | ⟨forced, -, -, hdecided⟩
    · exact absurd (congrArg ColorState.forced hstate) hchanged
    · rw [hdecided]
      rfl

/-- Where nothing is forced, the decision is what was detected at the last change. -/
theorem supported_eq (h : LastChange e before after)
    (hforced : ((start e).run (before ++ after)).state.forced = none) :
    ((start e).run (before ++ after)).state.supported =
      .bool ((start e).run before).environment.detects := by
  rw [h.state_eq] at hforced ⊢
  rw [h.supported_before, hforced]
  rfl

end LastChange

/-! ## The decision after any history -/

namespace ColorSupport

/-- **The decision about colours**, after any history of wishes and changes of the environment. What
is forced is the decision. Where nothing is forced, the decision is what was detected in the
environment of the last change of the forced value, and there is such a change in every history. A
wish is refused unless it is nothing or the same as a truth value, and changes nothing then; forcing
a truth value makes it the decision. Without colours there is a deleting layer around the streams,
and coloured text arrives plain. -/
theorem run_decision (e : Environment) (steps : List ColorStep) :
    let c := (start e).run steps
    (∀ v, c.state.forced = some v → c.state.supported = v) ∧
    (∃ before after, steps = before ++ after ∧ LastChange e before after) ∧
    (∀ before after, steps = before ++ after → LastChange e before after →
      c.state.forced = none →
        c.state.supported = .bool ((start e).run before).environment.detects) ∧
    (∀ wish, ((c.take (.force wish)).2 = none ↔
        wish = .null ∨ wish.same (.bool true) = true ∨ wish.same (.bool false) = true) ∧
      ((c.take (.force wish)).2 ≠ none → c.take (.force wish) = (c, some .malformed))) ∧
    (∀ b, (Value.bool b).same (c.take (.force (.bool b))).1.state.supported = true ∧
      (c.take (.force (.bool b))).1.state.isOn = b) ∧
    (c.state.isOn = false → 0 < c.state.layers ∧
      ∀ coloured plain, Tinted coloured plain →
        deliver c.state.layers coloured = ⟨plain, none⟩) := by
  intro c
  have hsound : c.state.Sound := sound_run e steps
  refine ⟨hsound.decided, LastChange.exists_split e steps, ?_, fun wish => ⟨?_, fun hfault => ?_⟩,
    supported_take_force_bool hsound, fun hoff => ⟨hsound.layered hoff, ?_⟩⟩
  · rintro before after rfl hlast hforced
    exact hlast.supported_eq hforced
  · exact fault_take_force_eq_none_iff
  · cases htarget : ColorState.target? c.environment wish with
    | none => exact take_force_of_refused htarget
    | some t => exact absurd (fault_take_force htarget) hfault
  · intro coloured plain htinted
    exact deliver_of_off hsound hoff htinted

end ColorSupport

end Terminal

end PropertyFilter
