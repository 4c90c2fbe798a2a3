import Mathlib.Data.List.Forall2
import PropertyFilter.Proofs.Log.Silence

/-!
# Two worlds side by side

Two worlds that take the same steps are compared step by step: each step keeps a relation between
them, and has the same result in both. One such relation is that both have printed the same. It is
kept whatever the two worlds log, as long as their handlers do not write to standard output.

## Main definitions

* `World.Paired R r₁ r₂`: the worlds after a step are related, and the results are equal
* `World.PrintsAlike w₁ w₂`: the same has been printed, and colours are the same

## Main results

* `World.paired_printLines`: printing lines keeps what printing one line keeps
* `World.PrintsAlike.unprinted`: steps that print nothing
* `World.PrintsAlike.write`, `World.PrintsAlike.printLine`: steps that print the same
-/

namespace PropertyFilter

namespace World

/-- The worlds after a step are related, and the results are equal. -/
def Paired {α : Type} (R : World → World → Prop) (r₁ r₂ : World × α) : Prop :=
  R r₁.1 r₂.1 ∧ r₁.2 = r₂.2

variable {R : World → World → Prop} {w₁ w₂ w₁' w₂' : World}

/-- **Printing lines** keeps a relation between worlds that printing one line keeps. -/
theorem paired_printLines {L : String → String → Prop}
    (hprint : ∀ {w₁ w₂ s₁ s₂}, R w₁ w₂ → L s₁ s₂ → Paired R (w₁.printLine s₁) (w₂.printLine s₂))
    (h : R w₁ w₂) {lines₁ lines₂ : List String} (hlines : List.Forall₂ L lines₁ lines₂) :
    Paired R (w₁.printLines lines₁) (w₂.printLines lines₂) := by
  induction hlines generalizing w₁ w₂ with
  | nil => exact ⟨h, rfl⟩
  | @cons s₁ s₂ lines₁ lines₂ hs _ ih =>
    obtain ⟨hprinted, hfault⟩ := hprint h hs
    rw [printLines, printLines]
    generalize w₁.printLine s₁ = r₁ at hprinted hfault ⊢
    generalize w₂.printLine s₂ = r₂ at hprinted hfault ⊢
    obtain ⟨w₁', fault⟩ := r₁
    obtain ⟨w₂', _⟩ := r₂
    obtain rfl : fault = _ := hfault
    cases fault with
    | none => exact ih hprinted
    | some e => exact ⟨hprinted, rfl⟩

/-- Both worlds have printed the same, in the same colours, and no handler writes to standard
output. -/
structure PrintsAlike (w₁ w₂ : World) : Prop where
  stdout : w₁.stdout = w₂.stdout
  color : w₁.color = w₂.color
  quiet₁ : w₁.Quiet
  quiet₂ : w₂.Quiet

namespace PrintsAlike

/-- **Steps that print nothing** may differ. -/
theorem unprinted (h : PrintsAlike w₁ w₂) (h₁ : Unprinted w₁ w₁' ∧ w₁'.Quiet)
    (h₂ : Unprinted w₂ w₂' ∧ w₂'.Quiet) : PrintsAlike w₁' w₂' where
  stdout := by rw [h₁.1.stdout, h₂.1.stdout, h.stdout]
  color := by rw [h₁.1.color, h₂.1.color, h.color]
  quiet₁ := h₁.2
  quiet₂ := h₂.2

theorem logText (h : PrintsAlike w₁ w₂) (level : Int) (logger text : String) :
    PrintsAlike (w₁.logText level logger text) (w₂.logText level logger text) :=
  h.unprinted (unprinted_logText h.quiet₁ level logger text)
    (unprinted_logText h.quiet₂ level logger text)

theorem notices (h : PrintsAlike w₁ w₂) (notices : List Notice) :
    PrintsAlike (notices.foldl notice w₁) (notices.foldl notice w₂) :=
  h.unprinted (unprinted_notices h.quiet₁ notices) (unprinted_notices h.quiet₂ notices)

theorem put (h : PrintsAlike w₁ w₂) (cs : List Char) :
    PrintsAlike (w₁.put .stdout cs) (w₂.put .stdout cs) :=
  { h with stdout := congrArg (· ++ cs) h.stdout }

/-- **Writing a text** does the same in both worlds. -/
theorem write (h : PrintsAlike w₁ w₂) (s : String) :
    Paired PrintsAlike (w₁.write .stdout s) (w₂.write .stdout s) := by
  rw [World.write, World.write, h.color]
  exact ⟨h.put _, rfl⟩

/-- **Printing a line** does the same in both worlds. -/
theorem printLine (h : PrintsAlike w₁ w₂) (s : String) :
    Paired PrintsAlike (w₁.printLine s) (w₂.printLine s) := by
  rw [World.printLine, World.printLine, h.color]
  exact ⟨h.put _, rfl⟩

theorem printLines (h : PrintsAlike w₁ w₂) (lines : List String) :
    Paired PrintsAlike (w₁.printLines lines) (w₂.printLines lines) :=
  paired_printLines (L := Eq) (fun h hs => hs ▸ h.printLine _) h (List.forall₂_refl lines)

end PrintsAlike

end World

end PropertyFilter
