import PropertyFilter.Filter.NameFilter
import PropertyFilter.Proofs.Value.Equality

/-!
# Sameness of filters

Filters are compared in two parts: their global names as sets, and their rows of names as mappings.

## Main definitions

* `NameFilter.RowsAlike`: rows of names that are the same

## Main results

* `NameFilter.same_iff`: filters are the same if both of their parts are
* `NameFilter.matches_eq_of_memberOf`: what a filter answers goes by look-ups
-/

namespace PropertyFilter

namespace NameFilter

variable {f g : NameFilter}

/-- Rows of names that are the same, each with a type that is the same. -/
def RowsAlike (rows rows' : Entries (List Value)) : Prop :=
  rows.length = rows'.length ∧
    ∀ e ∈ rows, ∃ e' ∈ rows', e.1.same e'.1 = true ∧ Value.sameItems e.2 e'.2 = true

theorem RowsAlike.refl (rows : Entries (List Value)) : RowsAlike rows rows :=
  ⟨rfl, fun e he => ⟨e, he, Value.same_refl _, Value.sameItems_refl _⟩⟩

/-- **Filters are the same** if their global names are the same set and their rows are the same. -/
theorem same_iff :
    f.same g = true ↔
      (f.globalNames.length = g.globalNames.length ∧
        Value.allIn f.globalNames g.globalNames = true) ∧
      RowsAlike f.namesByType g.namesByType := by
  simp only [same, RowsAlike, Bool.and_eq_true, beq_iff_eq, List.all_eq_true, List.any_eq_true,
    and_assoc]

theorem same_refl (f : NameFilter) : f.same f = true := by
  rw [same_iff]
  refine ⟨⟨rfl, ?_⟩, .refl _⟩
  rw [Value.allIn_iff]
  exact fun v hv => ⟨v, hv, Value.same_refl v⟩

/-- **What a filter answers goes by look-ups**: filters answer alike if every value is found among
the global names of both or of none, and among the names of both for any one type or of none. -/
theorem matches_eq_of_memberOf
    (hglobal : ∀ v : Value, v.memberOf f.globalNames = v.memberOf g.globalNames)
    (hunder : ∀ t, ∀ v : Value, v.memberOf (f.namesUnder t) = v.memberOf (g.namesUnder t)) :
    (∀ typeId name, f.matchesType typeId name = g.matchesType typeId name) ∧
      ∀ owner name, f.matchesOwner owner name = g.matchesOwner owner name := by
  have hamong : ∀ {names names' : List Value},
      (∀ v : Value, v.memberOf names = v.memberOf names') →
        ∀ name, f.matchesAmong names name = g.matchesAmong names' name := by
    intro names names' hnames name
    simp only [matchesAmong, matchesAny, hglobal name, hnames name]
  refine ⟨fun typeId => ?_, fun owner => ?_⟩
  · unfold matchesType namesFor
    cases typeKey? typeId with
    | none => exact hamong fun _ => rfl
    | some t => exact hamong (hunder t)
  · unfold matchesOwner
    cases owner with
    | null => exact hamong fun _ => rfl
    | _ => exact hamong (hunder _)

end NameFilter

end PropertyFilter
