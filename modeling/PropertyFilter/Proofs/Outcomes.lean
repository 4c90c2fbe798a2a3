import PropertyFilter.Fault

/-!
# Outcomes of steps

A sequence of steps succeeds if each step does. Where two sequences take steps that correspond, both
succeed or both fail.

## Main definitions

* `Alongside R x y`: two outcomes are both failures, or both results, which are related

## Main results

* `exists_of_bind_ok`, `exists_of_map_ok`: the steps of a sequence that succeeds
* `Alongside.bind`: sequences whose steps correspond
-/

namespace PropertyFilter

/-- A sequence that succeeds succeeds at its first step, and then goes on with the result. -/
theorem exists_of_bind_ok {ε α β : Type} {x : Except ε α} {f : α → Except ε β} {b : β}
    (h : x >>= f = .ok b) : ∃ a, x = .ok a ∧ f a = .ok b := by
  cases x with
  | error e => contradiction
  | ok a => exact ⟨a, rfl, h⟩

/-- A result that is made of another comes from one. -/
theorem exists_of_map_ok {ε α β : Type} {x : Except ε α} {f : α → β} {b : β}
    (h : x.map f = .ok b) : ∃ a, x = .ok a ∧ f a = b := by
  cases x with
  | error e => contradiction
  | ok a => exact ⟨a, rfl, Except.ok.inj h⟩

/-! ## Outcomes side by side -/

/-- Two outcomes are both failures, or both results, which are related. -/
inductive Alongside {α β : Type} (R : α → β → Prop) : Except Fault α → Except Fault β → Prop
  | ok {a : α} {b : β} (h : R a b) : Alongside R (.ok a) (.ok b)
  | error (e e' : Fault) : Alongside R (.error e) (.error e')

namespace Alongside

variable {α β γ δ : Type} {R S : α → β → Prop} {T : γ → δ → Prop} {x : Except Fault α}
  {y : Except Fault β}

theorem mono (h : Alongside R x y) (hRS : ∀ a b, R a b → S a b) : Alongside S x y := by
  cases h with
  | ok h => exact .ok (hRS _ _ h)
  | error e e' => exact .error e e'

/-- Sequences that go on with related results. -/
theorem bind (h : Alongside R x y) {f : α → Except Fault γ} {g : β → Except Fault δ}
    (hstep : ∀ a b, x = .ok a → R a b → Alongside T (f a) (g b)) :
    Alongside T (x >>= f) (y >>= g) := by
  cases h with
  | ok h => exact hstep _ _ rfl h
  | error e e' => exact .error e e'

theorem map (h : Alongside R x y) {f : α → γ} {g : β → δ} (hmap : ∀ a b, R a b → T (f a) (g b)) :
    Alongside T (x.map f) (y.map g) := by
  cases h with
  | ok h => exact .ok (hmap _ _ h)
  | error e e' => exact .error e e'

/-- The same step, taken twice, with a result that is related to itself. -/
theorem same {R : α → α → Prop} (x : Except Fault α) (h : ∀ a, x = .ok a → R a a) :
    Alongside R x x := by
  cases x with
  | ok a => exact .ok (h a rfl)
  | error e => exact .error e e

/-- A failure, and an outcome that is no result. -/
theorem error_left (e : Fault) (h : ∀ b, y ≠ .ok b) : Alongside R (.error e) y := by
  cases y with
  | ok b => exact absurd rfl (h b)
  | error e' => exact .error e e'

/-- Both outcomes are results, or neither is. -/
theorem exists_iff (h : Alongside R x y) : (∃ a, x = .ok a) ↔ ∃ b, y = .ok b := by
  cases h with
  | ok h => simp
  | error e e' => simp

/-- Two results are related. -/
theorem rel (h : Alongside R x y) {a : α} {b : β} (hx : x = .ok a) (hy : y = .ok b) : R a b := by
  cases h with
  | ok h =>
    obtain rfl := Except.ok.inj hx
    obtain rfl := Except.ok.inj hy
    exact h
  | error e e' => contradiction

end Alongside

end PropertyFilter
