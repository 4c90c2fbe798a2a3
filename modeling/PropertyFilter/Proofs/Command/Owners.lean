import PropertyFilter.Proofs.Filter.Sides

/-!
# Verdicts on owners

A serializer asks filters about the owners of properties, and the command asks them about types. The
two ways of asking have different early answers, but they agree: what the command prints for a type
is what a serializer is told for every owner of the type, and what it prints without a type is what
a serializer is told where there is no owner.

## Main definitions

* `ownerType owner`: the type that the command is given to learn about an owner

## Main results

* `NameFilter.matchesType_ownerType`: the two ways of asking agree
* `Verdict.line_injective`: a line tells its verdict, with colours or without
* `OutputFilters.build_describes_owners`: what the command prints is what a serializer is told
-/

namespace PropertyFilter

open OutputFilters (typeIdOf)
open Terminal (ColorState)

/-- The type that the command is given to learn about an owner: the name of the owner's type, and
none where there is no owner. -/
def ownerType : Value → Option String
  | .null => none
  | owner => some owner.typeName

theorem ownerType_of_ne_null {owner : Value} (h : owner ≠ .null) :
    ownerType owner = some owner.typeName := by
  unfold ownerType
  split
  · contradiction
  · rfl

namespace NameFilter

variable (f : NameFilter)

/-- **The two ways of asking agree**, on every name: about an owner, and about a type by its name.
Nothing has a type of its own, but both ways take it for no owner. -/
theorem matchesType_ownerType (owner name : Value) :
    f.matchesType (typeIdOf (ownerType owner)) name = f.matchesOwner owner name := by
  cases owner <;> rfl

/-- Types of one simple name cannot be told apart, nor from that name. -/
theorem matchesType_type (typeName : String) (serial : Nat) (name : Value) :
    f.matchesType (.type typeName serial) name = f.matchesType (.text typeName) name := rfl

/-- A name of a type, or any type of that name, stands for an owner of such a type. -/
theorem matchesType_of_owner {owner : Value} (h : owner ≠ .null) (serial : Nat) (name : Value) :
    f.matchesType (.text owner.typeName) name = f.matchesOwner owner name ∧
      f.matchesType (.type owner.typeName serial) name = f.matchesOwner owner name := by
  have htext : f.matchesType (.text owner.typeName) name = f.matchesOwner owner name := by
    rw [← matchesType_ownerType, ownerType_of_ne_null h]
    rfl
  exact ⟨htext, (f.matchesType_type _ serial name).trans htext⟩

end NameFilter

namespace Verdict

variable (color : ColorState) (typeName : Option String) (name : Value)

/-- The two answers that a line ends with. -/
def answers (v : Verdict) : String :=
  color.verdict v.excluded "excluded" "not excluded" ++ ", " ++
    color.verdict v.included "included" "not included"

theorem line_eq (v : Verdict) :
    v.line color typeName name =
      owner typeName ++ "." ++ name.plain ++ ": " ++ v.answers color := by
  simp only [line, answers, String.append_assoc]

theorem answers_injective {v v' : Verdict} (h : v.answers color = v'.answers color) : v = v' := by
  obtain ⟨excluded, included⟩ := v
  obtain ⟨excluded', included'⟩ := v'
  simp only [answers, ColorState.verdict, ColorState.colored] at h
  generalize color.isOn = on at h
  revert h
  revert on excluded included excluded' included'
  decide

/-- **A line tells its verdict**, with colours or without. -/
theorem line_injective {v v' : Verdict}
    (h : v.line color typeName name = v'.line color typeName name) : v = v' := by
  rw [line_eq, line_eq] at h
  exact answers_injective color (String.append_right_inj _ |>.mp h)

end Verdict

namespace OutputFilters

variable (color : ColorState) (c : OutputFilters)

theorem verdict_eq_ok_iff {typeName : Option String} {name : Value} {v : Verdict} :
    c.verdict typeName name = .ok v ↔
      c.excludes.matchesType (typeIdOf typeName) name = .ok v.excluded ∧
        c.includes.matchesType (typeIdOf typeName) name = .ok v.included := by
  unfold verdict
  obtain ⟨excluded, included⟩ := v
  cases c.excludes.matchesType (typeIdOf typeName) name with
  | error e => simp [bind, Except.bind]
  | ok =>
    cases c.includes.matchesType (typeIdOf typeName) name with
    | error e => simp [bind, Except.bind]
    | ok => simp [bind, Except.bind, pure, Except.pure]

/-- The line that is printed for a property is that of the verdict, and of no other. -/
theorem describeProperty_eq_line_iff {typeName : Option String} {name : Value} {v : Verdict} :
    describeProperty color c typeName name = .ok (v.line color typeName name) ↔
      c.verdict typeName name = .ok v := by
  unfold describeProperty
  cases c.verdict typeName name with
  | error e => simp [Except.map]
  | ok v' =>
    simp only [Except.map, Except.ok.injEq]
    exact ⟨Verdict.line_injective color typeName name, fun h => h ▸ rfl⟩

/-- What is printed for the type of an owner is the verdict on the owner. -/
theorem describeProperty_ownerType_iff {owner name : Value} {v : Verdict} :
    describeProperty color c (ownerType owner) name =
        .ok (v.line color (ownerType owner) name) ↔
      c.excludes.matchesOwner owner name = .ok v.excluded ∧
        c.includes.matchesOwner owner name = .ok v.included := by
  rw [describeProperty_eq_line_iff, verdict_eq_ok_iff, NameFilter.matchesType_ownerType,
    NameFilter.matchesType_ownerType]

theorem exists_describeProperty (owner : Value) (n : String) :
    ∃ v : Verdict, describeProperty color c (ownerType owner) (.text n) =
      .ok (v.line color (ownerType owner) (.text n)) := by
  obtain ⟨excluded, hexcluded, -⟩ := c.excludes.matchesOwner_text_iff owner n
  obtain ⟨included, hincluded, -⟩ := c.includes.matchesOwner_text_iff owner n
  exact ⟨⟨excluded, included⟩,
    (describeProperty_ownerType_iff color c).mpr ⟨hexcluded, hincluded⟩⟩

/-- **What the command prints is what a serializer is told.** Every mapping, with texts as extra
names, describes a pair of filters. For an owner and a property, the command prints a line when it
is given the owner's type, or no type where there is no owner, and the line says `excluded` or
`included` exactly if the filter of that side matches the property on the owner. A filter that is
asked about the name of a type, or about any type of that name, answers as it does about every owner
of such a type; asked about nothing, it answers as it does where there is no owner. -/
theorem build_describes_owners (label : Option Label) (view : Bool)
    (entries : List (Value × Value)) (extra : Side → Value) (names : Side → List String)
    (hextra : ∀ s, (extra s).members? = some ((names s).map .text)) :
    ∃ c, (build (.mapping label view entries) (extra .excludes) (extra .includes)).outcome =
        .ok c ∧
      (∀ color owner n, ∃ v : Verdict, describeProperty color c (ownerType owner) (.text n) =
        .ok (v.line color (ownerType owner) (.text n))) ∧
      (∀ color owner n (v : Verdict), describeProperty color c (ownerType owner) (.text n) =
          .ok (v.line color (ownerType owner) (.text n)) ↔
        c.excludes.matchesOwner owner (.text n) = .ok v.excluded ∧
          c.includes.matchesOwner owner (.text n) = .ok v.included) ∧
      (∀ s owner serial name, owner ≠ .null →
        (c.side s).matchesType (.text owner.typeName) name =
            (c.side s).matchesOwner owner name ∧
          (c.side s).matchesType (.type owner.typeName serial) name =
            (c.side s).matchesOwner owner name) ∧
      ∀ s name, (c.side s).matchesType .null name = (c.side s).matchesOwner .null name := by
  have hbuild := build_of_mapping label view entries extra _ hextra
    fun s => Value.allHashable_map_text (names s)
  refine ⟨_, congrArg Noticed.outcome hbuild, ?_, ?_, ?_, ?_⟩
  · exact fun color owner n => exists_describeProperty color _ owner n
  · exact fun color owner n v => describeProperty_ownerType_iff color _
  · exact fun s owner serial name howner => NameFilter.matchesType_of_owner _ howner serial name
  · exact fun s name => NameFilter.matchesType_ownerType _ .null name

/-- Names for the type of nothing are not found without an owner, and a type as an owner is of the
type of types. -/
theorem build_describes_owners_of_nothing :
    (Value.tuple none [.text "x"]).members? = some ((["x"] : List String).map .text) ∧
      Value.type "User" 1 ≠ .null ∧
      ∃ c, (build (.mapping none false [(.text "excludes", .mapping none false
            [(.text "NoneType", .text "id"), (.type "type" 0, .text "name")])])
            (.tuple none [.text "x"]) (.tuple none [.text "x"])).outcome = .ok c ∧
        (∀ color, describeProperty color c none (.text "id") =
          .ok (Verdict.line color none (.text "id") ⟨false, false⟩)) ∧
        (∀ color, describeProperty color c (some "type") (.text "name") =
          .ok (Verdict.line color (some "type") (.text "name") ⟨true, false⟩)) ∧
        c.excludes.matchesType (.type "type" 7) (.text "name") = .ok true := by
  have howner : Value.type "User" 1 ≠ .null := Value.noConfusion
  obtain ⟨c, hc, -, hdescribes, htypes, -⟩ := build_describes_owners none false
    [(.text "excludes", .mapping none false
      [(.text "NoneType", .text "id"), (.type "type" 0, .text "name")])]
    (fun _ => .tuple none [.text "x"]) (fun _ => ["x"]) fun _ => rfl
  have hbuilt : c = configured [(.text "excludes", .mapping none false
      [(.text "NoneType", .text "id"), (.type "type" 0, .text "name")])] fun _ => [.text "x"] := by
    rw [build_of_mapping none false _ (fun _ => .tuple none [.text "x"])
      (fun _ => [.text "x"]) (fun _ => rfl) fun _ => rfl] at hc
    exact (Except.ok.inj hc).symm
  have hnothing : ∀ s, (c.side s).matchesOwner .null (.text "id") = .ok false := by
    rintro (_ | _) <;> rw [hbuilt] <;> cbv
  have hexcluded : c.excludes.matchesOwner (.type "User" 1) (.text "name") = .ok true := by
    rw [hbuilt]
    cbv
  have hincluded : c.includes.matchesOwner (.type "User" 1) (.text "name") = .ok false := by
    rw [hbuilt]
    cbv
  refine ⟨rfl, howner, c, hc, fun color => ?_, fun color => ?_, ?_⟩
  · exact (hdescribes color .null "id" ⟨false, false⟩).mpr
      ⟨hnothing .excludes, hnothing .includes⟩
  · exact (hdescribes color (.type "User" 1) "name" ⟨true, false⟩).mpr ⟨hexcluded, hincluded⟩
  · exact (htypes .excludes (.type "User" 1) 7 (.text "name") howner).2.trans hexcluded

end OutputFilters

end PropertyFilter
