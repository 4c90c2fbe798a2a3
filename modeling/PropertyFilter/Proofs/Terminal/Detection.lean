import PropertyFilter.Proofs.Terminal.Decisions

/-!
# Going back to detection

A caller who forces nothing leaves the decision about colours to the environment. It is the decision
of a fresh start then, with one exception: where nothing has been forced before, nor is forced by
the environment, an earlier decision is kept, though detection may have changed since.

## Main definitions

* `ColorSupport.Outdated e steps`: after a history that begins in `e`, nothing is forced, and
  detection has changed since the decision was taken

## Main results

* `ColorSupport.exists_detected`: when a decision is outdated
* `ColorSupport.same_supported_take_force_null`: going back where something is forced
* `ColorSupport.supported_take_force_null`: the decision after going back, after any history
-/

namespace PropertyFilter

namespace Value

theorem bool_same_bool_iff {a b : Bool} : (bool a).same (bool b) = true ↔ a = b := by
  constructor
  · intro h
    have hb : (bool b).isTruthy = a := isTruthy_of_bool_same h
    exact hb.symm
  · rintro rfl
    exact same_bool_self a

end Value

namespace Terminal

namespace ColorState

/-- What the environment forces, or else what is detected, is a truth value. -/
theorem exists_decision_eq_bool (e : Environment) : ∃ b, decision e e.forced = .bool b := by
  unfold Environment.forced
  split
  · exact ⟨false, rfl⟩
  split
  · exact ⟨true, rfl⟩
  · exact ⟨e.detects, rfl⟩

end ColorState

namespace ColorSupport

open ColorState (decision sameForced)

variable {c : ColorSupport} {e : Environment} {steps : List ColorStep}

/-- **Going back** never fails: what the environment forces takes the place of the forced value, and
the decision is taken anew unless these are the same. -/
theorem take_force_null (c : ColorSupport) :
    c.take (.force .null) =
      ({ c with state :=
          if sameForced c.environment.forced c.state.forced then c.state
          else .decide c.environment c.environment.forced c.state.layers }, none) := rfl

theorem supported_start (e : Environment) : (start e).state.supported = decision e e.forced := rfl

/-- Nothing is forced, neither so far nor by the environment, and what is detected in the present
environment is not what was detected when the decision was taken. -/
def Outdated (e : Environment) (steps : List ColorStep) : Prop :=
  let c := (start e).run steps
  c.state.forced = none ∧ c.environment.forced = none ∧
    ∃ before after, steps = before ++ after ∧ LastChange e before after ∧
      ((start e).run before).environment.detects ≠ c.environment.detects

/-- Where nothing is forced, the decision is what has been detected once, and it is outdated exactly
if something else is detected now. -/
theorem exists_detected (hforced : ((start e).run steps).state.forced = none)
    (henvironment : ((start e).run steps).environment.forced = none) :
    ∃ detected, ((start e).run steps).state.supported = .bool detected ∧
      (Outdated e steps ↔ detected ≠ ((start e).run steps).environment.detects) := by
  -- whichever way a history is cut at a last change, the decision was taken there
  have hdecision : ∀ before after, steps = before ++ after → LastChange e before after →
      ((start e).run steps).state.supported =
        .bool ((start e).run before).environment.detects := by
    rintro before after rfl hlast
    exact hlast.supported_eq hforced
  obtain ⟨before, after, hsplit, hlast⟩ := LastChange.exists_split e steps
  have hdetected := hdecision before after hsplit hlast
  refine ⟨_, hdetected, ?_, fun hchanged => ?_⟩
  · rintro ⟨-, -, before', after', hsplit', hlast', hchanged⟩
    have hsame := hdetected.symm.trans (hdecision before' after' hsplit' hlast')
    rwa [Value.bool.inj hsame]
  · exact ⟨hforced, henvironment, before, after, hsplit, hlast, hchanged⟩

/-- **Going back where something is forced**, so far or by the environment: the decision is the same
as that of a fresh start. -/
theorem same_supported_take_force_null (hc : c.state.Sound)
    (h : ¬ (c.state.forced = none ∧ c.environment.forced = none)) :
    (start c.environment).state.supported.same
      (c.take (.force .null)).1.state.supported = true := by
  obtain ⟨b, hb⟩ := ColorState.exists_decision_eq_bool c.environment
  rw [take_force_null, supported_start]
  by_cases hsame : sameForced c.environment.forced c.state.forced = true
  · simp only [hsame, if_true]
    cases hforced : c.environment.forced with
    | none =>
      cases hstate : c.state.forced with
      | none => exact absurd ⟨hstate, hforced⟩ h
      | some w => simp [sameForced, hforced, hstate] at hsame
    | some v =>
      rw [hforced] at hsame
      exact ColorState.same_supported_of_sameForced hc hsame
  · simp only [hsame, if_false, Bool.false_eq_true]
    show (decision c.environment c.environment.forced).same
      (decision c.environment c.environment.forced) = true
    rw [hb]
    exact Value.same_bool_self b

/-- **The decision after going back**, after any history of wishes and changes of the environment.
Going back never fails, and leaves the environment alone. The decision is the same as that of a
fresh start in the present environment, and colours are on as they would be then, except where
nothing has been forced so far, nor is by the environment, and detection has changed since the
decision was taken: there, and only there, an outdated decision is kept. -/
theorem supported_take_force_null (e : Environment) (steps : List ColorStep) :
    let c := (start e).run steps
    let back := c.take (.force .null)
    let fresh := start c.environment
    back.2 = none ∧ back.1.environment = c.environment ∧
    (fresh.state.supported.same back.1.state.supported = true ↔ ¬ Outdated e steps) ∧
    (back.1.state.isOn = fresh.state.isOn ↔ ¬ Outdated e steps) ∧
    (Outdated e steps → back.1 = c) := by
  intro c back fresh
  have hsound : c.state.Sound := sound_run e steps
  refine ⟨rfl, rfl, ?_⟩
  by_cases hnothing : c.state.forced = none ∧ c.environment.forced = none
  · obtain ⟨hforced, henvironment⟩ := hnothing
    have hback : back.1 = c := by
      show (c.take (.force .null)).1 = c
      rw [take_force_null]
      simp [henvironment, hforced, sameForced]
    have hfresh : fresh.state.supported = .bool c.environment.detects := by
      rw [supported_start, henvironment]
      rfl
    obtain ⟨detected, hdetected, houtdated⟩ := exists_detected hforced henvironment
    rw [houtdated, not_not, hback, ColorState.isOn, ColorState.isOn, hfresh, hdetected]
    exact ⟨Value.bool_same_bool_iff.trans eq_comm, Iff.rfl, fun _ => rfl⟩
  · have hcurrent : ¬ Outdated e steps := fun h => hnothing ⟨h.1, h.2.1⟩
    have hsame := same_supported_take_force_null hsound hnothing
    obtain ⟨b, hb⟩ := ColorState.exists_decision_eq_bool c.environment
    refine ⟨iff_of_true hsame hcurrent, iff_of_true ?_ hcurrent, fun h => absurd h hcurrent⟩
    rw [supported_start, hb] at hsame
    rw [ColorState.isOn, ColorState.isOn, Value.isTruthy_of_bool_same hsame, supported_start, hb]
    rfl

/-- Away from a terminal, going back does not notice a colour terminal that is named later. -/
example :
    let named : Environment := { Environment.bare with colorTerm := some "truecolor" }
    let c := (start .bare).run [.surround named]
    (c.take (.force .null)).1.state.isOn = false ∧ (start named).state.isOn = true := by decide

end ColorSupport

end Terminal

end PropertyFilter
