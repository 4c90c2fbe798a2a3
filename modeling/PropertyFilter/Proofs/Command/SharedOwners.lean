import PropertyFilter.Proofs.Command.Owners

/-!
# Lines that show one owner

A line for a property shows the type that was asked about, or a star where no type was given. Types
are known by any text, so a type may have a star for its name, and the type without a name is shown
by a star as well. Other lines that show one owner are about one type. Those that show a star,
without a type or for the type of that name, are the same if that type has no other names than the
ones that match on any owner.

## Main definitions

* `NameFilter.AddsNothing`: types whose names match on any owner anyway
* `OutputFilters.verdictOn`, `OutputFilters.globalVerdict`: verdicts on properties that are texts

## Main results

* `Verdict.owner_eq_iff`: which types are shown alike
* `Verdict.star_prefix_line_iff`: which lines begin as those that show a star
* `OutputFilters.describeProperty_eq_iff`: when two lines that show one owner are the same
* `OutputFilters.describeProperty_of_owner`: lines that show one owner, for any filters
-/

namespace PropertyFilter

open OutputFilters (typeIdOf)
open Terminal (ColorState Environment)

/-! ## Owners -/

namespace Verdict

variable {typeName typeName' : Option String}

/-- A star is shown without a type, for the type without a name, and for the type of that name. -/
theorem owner_eq_star_iff :
    owner typeName = "*" ↔ typeName = none ∨ typeName = some "" ∨ typeName = some "*" := by
  unfold owner
  split
  · simp
  · simp
  · next t hne =>
    have ht : t ≠ "" := hne
    simp [ht]

theorem eq_some_of_owner_ne_star (h : owner typeName ≠ "*") :
    typeName = some (owner typeName) := by
  unfold owner at h ⊢
  split at h
  · contradiction
  · contradiction
  · rfl

/-- **Types that are shown alike** are the same, or are shown by a star. -/
theorem owner_eq_iff :
    owner typeName = owner typeName' ↔
      typeName = typeName' ∨ owner typeName = "*" ∧ owner typeName' = "*" := by
  constructor
  · intro h
    by_cases hstar : owner typeName = "*"
    · exact .inr ⟨hstar, h.symm.trans hstar⟩
    · have hstar' : owner typeName' ≠ "*" := h ▸ hstar
      have htype := eq_some_of_owner_ne_star hstar
      rw [h, ← eq_some_of_owner_ne_star hstar'] at htype
      exact .inl htype
  · rintro (rfl | ⟨hstar, hstar'⟩)
    · rfl
    · rw [hstar, hstar']

variable (color : ColorState) (name : Value)

/-- A line depends on the type by the owner that it shows. -/
theorem line_congr_owner (h : owner typeName = owner typeName') (v : Verdict) :
    v.line color typeName name = v.line color typeName' name := by
  rw [line_eq, line_eq, h]

/-- **A line begins with a star and a dot** if it shows a star, or an owner that begins so
itself. -/
theorem star_prefix_line_iff (v : Verdict) :
    ['*', '.'] <+: (v.line color typeName name).toList ↔
      owner typeName = "*" ∨ ['*', '.'] <+: (owner typeName).toList := by
  have hline : (v.line color typeName name).toList =
      (owner typeName).toList ++ '.' :: (name.plain ++ ": " ++ v.answers color).toList := by
    simp [line_eq]
  have hstar : owner typeName = "*" ↔ (owner typeName).toList = ['*'] := String.toList_inj.symm
  rw [hline, hstar]
  rcases (owner typeName).toList with _ | ⟨c, _ | ⟨d, cs⟩⟩
  · simp [List.cons_prefix_cons]
  · simp [List.cons_prefix_cons, eq_comm]
  · simp [List.cons_prefix_cons]

end Verdict

/-! ## Types that add nothing -/

namespace NameFilter

/-- A type whose names match on any owner anyway. -/
def AddsNothing (f : NameFilter) (typeName : String) : Prop :=
  ∀ n, .text n ∈ f.namesUnder typeName → .text n ∈ f.globalNames

variable (f : NameFilter)

theorem matchesText_null (n : String) :
    f.matchesText .null n = (Value.text n).memberOf f.globalNames := by
  simp [matchesText, namesFor, typeKey?]

/-- **A type adds nothing** exactly if a filter answers about it as it does without a type. -/
theorem addsNothing_iff {typeName : String} :
    f.AddsNothing typeName ↔ ∀ n, f.matchesText (.text typeName) n = f.matchesText .null n := by
  refine forall_congr' fun n => ?_
  rw [matchesText_null, matchesText, namesFor, typeKey?_text, Bool.or_eq_left_iff_imp,
    Value.text_memberOf_iff, Value.text_memberOf_iff]

end NameFilter

/-! ## Lines -/

namespace OutputFilters

open Verdict (owner)

variable (color : ColorState) (c : OutputFilters) {typeName typeName' : Option String}

/-- The verdict on a property of owners of a type, when the property is a text. -/
def verdictOn (typeName : Option String) (n : String) : Verdict :=
  ⟨c.excludes.matchesText (typeIdOf typeName) n, c.includes.matchesText (typeIdOf typeName) n⟩

/-- What the names that match on any owner say of a property. -/
def globalVerdict (n : String) : Verdict :=
  ⟨(Value.text n).memberOf c.excludes.globalNames, (Value.text n).memberOf c.includes.globalNames⟩

theorem describeProperty_text (typeName : Option String) (n : String) :
    describeProperty color c typeName (.text n) =
      .ok ((c.verdictOn typeName n).line color typeName (.text n)) := by
  rw [describeProperty_eq_line_iff, verdict_eq_ok_iff, NameFilter.matchesType_text,
    NameFilter.matchesType_text]
  exact ⟨rfl, rfl⟩

/-- **Two lines that show one owner** are the same exactly if the verdicts are. -/
theorem describeProperty_eq_iff (h : owner typeName = owner typeName') (n : String) :
    describeProperty color c typeName (.text n) = describeProperty color c typeName' (.text n) ↔
      c.verdictOn typeName n = c.verdictOn typeName' n := by
  rw [describeProperty_text, describeProperty_text, Verdict.line_congr_owner color _ h,
    Except.ok.injEq]
  exact ⟨Verdict.line_injective color typeName' _, congrArg (Verdict.line color typeName' _)⟩

/-- Without a type, the names that match on any owner decide. -/
theorem verdictOn_none (n : String) : c.verdictOn none n = c.globalVerdict n := by
  rw [verdictOn, globalVerdict, ← NameFilter.matchesText_null, ← NameFilter.matchesText_null]
  rfl

/-- They decide about a type as well exactly if the type adds nothing on either side. -/
theorem verdictOn_some_iff {t : String} :
    (∀ n, c.verdictOn (some t) n = c.globalVerdict n) ↔ ∀ s, (c.side s).AddsNothing t := by
  have hsides : ∀ n, c.verdictOn (some t) n = c.globalVerdict n ↔
      ∀ s, (c.side s).matchesText (.text t) n = (c.side s).matchesText .null n := by
    intro n
    rw [← verdictOn_none, verdictOn, verdictOn, Verdict.mk.injEq]
    constructor
    · rintro ⟨hexcludes, hincludes⟩ (_ | _)
      · exact hexcludes
      · exact hincludes
    · exact fun h => ⟨h .excludes, h .includes⟩
  simp only [hsides, NameFilter.addsNothing_iff]
  exact forall_comm

/-- **Under a star** the names that match on any owner decide about everything but the type without
a name exactly if the type that has a star for its name adds nothing. -/
theorem verdictOn_star_iff :
    (∀ typeName, typeName ≠ some "" → owner typeName = "*" →
      ∀ n, c.verdictOn typeName n = c.globalVerdict n) ↔ ∀ s, (c.side s).AddsNothing "*" := by
  rw [← verdictOn_some_iff]
  constructor
  · exact fun h => h (some "*") (by simp) rfl
  · intro hstar typeName hnamed howner
    rcases Verdict.owner_eq_star_iff.mp howner with rfl | hempty | rfl
    · exact c.verdictOn_none
    · exact absurd hempty hnamed
    · exact hstar

/-- **Lines that show one owner.** Without a type, a line tells what the names that match on any
owner say. All lines that show one owner, and are not about the type without a name, are the same
for each property exactly if the type that has a star for its name adds nothing to these. And
exactly then every one of them that begins with a star and a dot, while its owner does not, tells
what the names that match on any owner say. -/
theorem describeProperty_of_owner :
    (∀ n, describeProperty color c none (.text n) =
      .ok ((c.globalVerdict n).line color none (.text n))) ∧
    ((∀ typeName typeName' n, typeName ≠ some "" → typeName' ≠ some "" →
        owner typeName = owner typeName' →
        describeProperty color c typeName (.text n) =
          describeProperty color c typeName' (.text n)) ↔
      ∀ s, (c.side s).AddsNothing "*") ∧
    ((∀ typeName n line, typeName ≠ some "" →
        describeProperty color c typeName (.text n) = .ok line →
        ['*', '.'] <+: line.toList → ¬ ['*', '.'] <+: (owner typeName).toList →
        line = (c.globalVerdict n).line color none (.text n)) ↔
      ∀ s, (c.side s).AddsNothing "*") := by
  have hglobal : ∀ n, describeProperty color c none (.text n) =
      .ok ((c.globalVerdict n).line color none (.text n)) := by
    intro n
    rw [describeProperty_text, verdictOn_none]
  refine ⟨hglobal, ?_, ?_⟩
  · rw [← c.verdictOn_star_iff]
    constructor
    · intro h typeName hnamed howner n
      rw [← verdictOn_none, ← describeProperty_eq_iff color c howner]
      exact h typeName none n hnamed (by simp) howner
    · intro h typeName typeName' n hnamed hnamed' howner
      rw [describeProperty_eq_iff color c howner]
      rcases Verdict.owner_eq_iff.mp howner with rfl | ⟨hstar, hstar'⟩
      · rfl
      · rw [h typeName hnamed hstar, h typeName' hnamed' hstar']
  · rw [← c.verdictOn_star_iff]
    constructor
    · intro h typeName hnamed howner n
      have hprefix : ['*', '.'] <+: (owner typeName).toList → False := by
        rw [howner]
        decide
      have hline := h typeName n _ hnamed (describeProperty_text color c typeName n)
        ((Verdict.star_prefix_line_iff color _ _).mpr (.inl howner)) hprefix
      have hnone : owner typeName = owner none := howner
      rw [Verdict.line_congr_owner color _ hnone] at hline
      exact Verdict.line_injective color none _ hline
    · intro h typeName n line hnamed hline hprefix hdotted
      rw [describeProperty_text, Except.ok.injEq] at hline
      subst hline
      have howner := ((Verdict.star_prefix_line_iff color _ _).mp hprefix).resolve_right hdotted
      have hnone : owner typeName = owner none := howner
      rw [h typeName hnamed howner, Verdict.line_congr_owner color _ hnone]

/-- A configuration that excludes names for the type that has a star for its name. -/
def starred (names : String) : List (Value × Value) :=
  [(.text "excludes", .mapping none false [(.text "*", .text names), (.text "User", .text "id")])]

theorem outcome_build_starred (names : String) :
    (build (.mapping none false (starred names)) noExtras noExtras).outcome =
      .ok (configured (starred names) fun _ => []) := by
  rw [build_of_mapping none false (starred names) (fun _ => noExtras) (fun _ => [])
    (fun _ => rfl) fun _ => rfl]

/-- Names of reflective metadata, which are never shown, may be given for that type without parting
its lines from those without a type. -/
theorem describeProperty_of_owner_reflective :
    ∃ c, (build (.mapping none false (starred "class, metaClass")) noExtras noExtras).outcome =
        .ok c ∧
      ∀ color n, describeProperty color c (some "*") (.text n) =
        describeProperty color c none (.text n) := by
  refine ⟨_, outcome_build_starred _, ?_⟩
  generalize hc : configured (starred "class, metaClass") (fun _ => []) = c
  have hstar : ∀ s, (c.side s).AddsNothing "*" := by
    have hexcludes : c.excludes.namesUnder "*" = [.text "class", .text "metaClass"] ∧
        c.excludes.globalNames = [.text "class", .text "metaClass", .text "declaringClass"] := by
      subst hc
      constructor <;> cbv
    have hincludes : c.includes.namesUnder "*" = [] := by
      subst hc
      cbv
    rintro (_ | _) n hn
    · rw [side, hexcludes.1] at hn
      rw [side, hexcludes.2]
      exact List.mem_append_left [.text "declaringClass"] hn
    · rw [side, hincludes] at hn
      contradiction
  exact fun color n => (describeProperty_of_owner color c).2.1.mpr hstar (some "*") none n
    (by simp) (by simp) rfl

/-- Other names part the line about that type from the line without a type. -/
theorem describeProperty_starred :
    ∃ c, (build (.mapping none false (starred "x")) noExtras noExtras).outcome = .ok c ∧
      owner none = owner (some "*") ∧
      describeProperty (.start { Environment.bare with noColor := some "" }) c none (.text "x") =
        .ok "*.x: not excluded, not included" ∧
      describeProperty (.start { Environment.bare with noColor := some "" }) c (some "*")
        (.text "x") = .ok "*.x: excluded, not included" := by
  refine ⟨_, outcome_build_starred _, rfl, ?_, ?_⟩
  · cbv
  · cbv

end OutputFilters

end PropertyFilter
