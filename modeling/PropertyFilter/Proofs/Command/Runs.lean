import PropertyFilter.Command.Run
import PropertyFilter.Proofs.Log.Pairs

/-!
# Two runs, stage by stage

A run goes on from stage to stage until one fails. Two runs are compared stage by stage: a relation
between worlds that every stage keeps is kept by the whole run.

## Main results

* `paired_andThen`, `paired_endWith`: from one stage of two runs to the next, and to the end
* `paired_showVerdicts`, `paired_showFilters`, `paired_answer`: what two worlds show
-/

namespace PropertyFilter.Command

open World (Paired)

variable {R : World → World → Prop} {r₁ r₂ : World × Option Fault} {w₁ w₂ : World}
  {x : Options}

theorem paired_andThen (h : Paired R r₁ r₂) {next₁ next₂ : World → RunResult}
    (hnext : ∀ w₁ w₂, R w₁ w₂ → Paired R (next₁ w₁) (next₂ w₂)) :
    Paired R (andThen r₁ next₁) (andThen r₂ next₂) := by
  obtain ⟨w₁, fault⟩ := r₁
  obtain ⟨w₂, _⟩ := r₂
  obtain ⟨hworlds, rfl⟩ : R w₁ w₂ ∧ fault = _ := h
  cases fault with
  | none => exact hnext w₁ w₂ hworlds
  | some e => exact ⟨hworlds, rfl⟩

theorem paired_endWith (n : Nat) (h : Paired R r₁ r₂) : Paired R (endWith n r₁) (endWith n r₂) := by
  obtain ⟨w₁, fault⟩ := r₁
  obtain ⟨w₂, _⟩ := r₂
  obtain ⟨hworlds, rfl⟩ : R w₁ w₂ ∧ fault = _ := h
  cases fault with
  | none => exact ⟨hworlds, rfl⟩
  | some e => exact ⟨hworlds, rfl⟩

/-- **Verdicts** keep a relation between worlds that the line of each verdict keeps. -/
theorem paired_showVerdicts (c : OutputFilters) {typeName : Option String} {names : List String}
    (hprint : ∀ {w₁ w₂ n}, R w₁ w₂ → n ∈ names → ∀ v : Verdict,
      Paired R (w₁.printLine (v.line w₁.color typeName (.text n)))
        (w₂.printLine (v.line w₂.color typeName (.text n))))
    (h : R w₁ w₂) :
    Paired R (showVerdicts w₁ c typeName names) (showVerdicts w₂ c typeName names) := by
  induction names generalizing w₁ w₂ with
  | nil => exact ⟨h, rfl⟩
  | cons n names ih =>
    rw [showVerdicts, showVerdicts, describeProperty, describeProperty]
    cases c.verdict typeName (.text n) with
    | error e => exact ⟨h, rfl⟩
    | ok v =>
      obtain ⟨hprinted, hfault⟩ := hprint h List.mem_cons_self v
      rw [Except.map, Except.map]
      simp only
      generalize w₁.printLine _ = r₁ at hprinted hfault ⊢
      generalize w₂.printLine _ = r₂ at hprinted hfault ⊢
      obtain ⟨w₁', fault⟩ := r₁
      obtain ⟨w₂', _⟩ := r₂
      obtain rfl : fault = _ := hfault
      cases fault with
      | none => exact ih (fun h hn => hprint h (List.mem_cons_of_mem _ hn)) hprinted
      | some e => exact ⟨hprinted, rfl⟩

/-- **Filters that are shown** keep a relation between worlds that writing their document keeps. -/
theorem paired_showFilters (c : OutputFilters)
    (hwrite : ∀ v text, Yaml.write v = .ok text →
      Paired R (w₁.write .stdout text) (w₂.write .stdout text))
    (h : R w₁ w₂) : Paired R (showFilters w₁ c) (showFilters w₂ c) := by
  unfold showFilters
  cases c.snapshot with
  | error e => exact ⟨h, rfl⟩
  | ok v =>
    simp only
    cases htext : Yaml.write v with
    | error e => exact ⟨h, rfl⟩
    | ok text => exact hwrite v text htext

/-- **An answer** keeps what its parts keep: filters, verdicts and the hint. -/
theorem paired_answer (c : OutputFilters)
    (hshow : ∀ {w₁ w₂}, R w₁ w₂ → Paired R (showFilters w₁ c) (showFilters w₂ c))
    (hverdicts : ∀ {w₁ w₂}, R w₁ w₂ → Paired R (showVerdicts w₁ c x.typeName x.properties)
      (showVerdicts w₂ c x.typeName x.properties))
    (hhint : ∀ {w₁ w₂}, R w₁ w₂ → R (w₁.logText infoLevel logger nothingToDo)
      (w₂.logText infoLevel logger nothingToDo))
    (h : R w₁ w₂) : Paired R (answer w₁ x c) (answer w₂ x c) := by
  have hshown : Paired R (if x.showFilters then showFilters w₁ c else (w₁, none))
      (if x.showFilters then showFilters w₂ c else (w₂, none)) := by
    cases x.showFilters with
    | false => exact ⟨h, rfl⟩
    | true => exact hshow h
  refine paired_andThen hshown fun w₁ w₂ h => ?_
  refine paired_andThen (hverdicts h) fun w₁ w₂ h => ?_
  cases !x.showFilters && x.properties.isEmpty with
  | false => exact ⟨h, rfl⟩
  | true => exact ⟨hhint h, rfl⟩

end PropertyFilter.Command
