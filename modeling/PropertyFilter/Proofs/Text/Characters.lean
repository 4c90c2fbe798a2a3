import PropertyFilter.Text.Fields

/-!
# Texts over a set of characters

## Main definitions

* `TextOver P s`: every character of `s` satisfies `P`

## Main results

* `TextOver.append`, `TextOver.intercalate`: texts put together
* `Text.mem_and_ne_of_mem_fields`: the fields of a text are made of its characters other than the
  separator
-/

namespace PropertyFilter

/-- Every character of a text satisfies `P`. -/
def TextOver (P : Char → Prop) (s : String) : Prop := ∀ c ∈ s.toList, P c

variable {P : Char → Prop}

instance [DecidablePred P] (s : String) : Decidable (TextOver P s) :=
  List.decidableBAll P s.toList

theorem textOver_ofList {cs : List Char} : TextOver P (String.ofList cs) ↔ ∀ c ∈ cs, P c := by
  simp [TextOver]

theorem textOver_append_iff {s t : String} :
    TextOver P (s ++ t) ↔ TextOver P s ∧ TextOver P t := by
  rw [TextOver, String.toList_append, List.forall_mem_append]
  rfl

namespace TextOver

theorem append {s t : String} (hs : TextOver P s) (ht : TextOver P t) : TextOver P (s ++ t) :=
  textOver_append_iff.mpr ⟨hs, ht⟩

theorem intercalate {sep : String} (hsep : TextOver P sep) {texts : List String}
    (h : ∀ s ∈ texts, TextOver P s) : TextOver P (sep.intercalate texts) := by
  induction texts with
  | nil => simp [TextOver]
  | cons s texts ih =>
    rw [List.forall_mem_cons] at h
    cases texts with
    | nil => simpa using h.1
    | cons t texts =>
      rw [String.intercalate_cons_cons]
      exact (h.1.append hsep).append (ih h.2)

end TextOver

/-- The fields of a text are made of its characters other than the separator. -/
theorem Text.mem_and_ne_of_mem_fields {sep : Char} {cs field : List Char}
    (hfield : field ∈ fields sep cs) {c : Char} (hc : c ∈ field) : c ∈ cs ∧ c ≠ sep := by
  induction cs generalizing field with
  | nil =>
    obtain rfl := List.mem_singleton.mp hfield
    contradiction
  | cons d cs ih =>
    have hrest : c ∈ cs ∧ c ≠ sep → c ∈ d :: cs ∧ c ≠ sep :=
      And.imp_left (List.mem_cons_of_mem d)
    unfold fields at hfield
    split at hfield
    · rcases List.mem_cons.mp hfield with rfl | hfield
      · contradiction
      · exact hrest (ih hfield hc)
    · next hd =>
      split at hfield
      · next hnil => exact absurd hnil (fields_ne_nil sep cs)
      · next f fs hfs =>
        rw [hfs] at ih
        rcases List.mem_cons.mp hfield with rfl | hfield
        · rcases List.mem_cons.mp hc with rfl | hc
          · exact ⟨List.mem_cons_self, hd⟩
          · exact hrest (ih List.mem_cons_self hc)
        · exact hrest (ih (List.mem_cons_of_mem f hfield) hc)

end PropertyFilter
