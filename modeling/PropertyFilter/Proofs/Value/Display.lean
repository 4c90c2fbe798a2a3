import PropertyFilter.Proofs.Text.Inertness
import PropertyFilter.Value.Display

/-!
# Values in messages

Whatever a value holds, the form in which messages show it has no character of an escape sequence:
texts are quoted, and the rest is written with digits and signs. Only the names of types are shown
as they are.

## Main definitions

* `Number.Numeral c`: the characters that numbers are written with
* `Value.Over P v`: every character of the texts in a value satisfies `P`

## Main results

* `Value.inert_shown`: the forms of values
* `numeral_intText`, `Number.Binary64.numeral_text`: numbers
-/

namespace PropertyFilter

open Terminal (Inert inert_of_le)

/-! ## Numbers -/

namespace Number

/-- The characters that numbers are written with. -/
def Numeral (c : Char) : Prop :=
  c.isDigit = true ∨ c ∈ ['+', '-', '.', 'e', 'i', 'n', 'f', 'a']

instance : DecidablePred Numeral := fun _ => inferInstanceAs (Decidable (_ ∨ _))

theorem Numeral.inert {c : Char} (h : Numeral c) : Inert c := by
  rcases h with hdigit | hsign
  · simp only [Char.isDigit, Bool.and_eq_true, decide_eq_true_eq, UInt32.le_iff_toNat_le,
      ge_iff_le] at hdigit
    have hlow : 48 ≤ c.toNat := hdigit.1
    exact inert_of_le (by omega)
  · have hsigns : ∀ c ∈ ['+', '-', '.', 'e', 'i', 'n', 'f', 'a'], Inert c := by decide
    exact hsigns c hsign

theorem numeral_of_mem_digitsText {c : Char} {n : Nat} (h : c ∈ digitsText n) : Numeral c :=
  .inl (Nat.isDigit_of_mem_toDigits (by decide) (by decide) h)

variable {cs : List Char}

theorem numeral_pointed (h : ∀ c ∈ cs, Numeral c) (places : Nat) :
    ∀ c ∈ pointed cs places, Numeral c := by
  have hpadded : ∀ c ∈ List.replicate (places + 1 - cs.length) '0' ++ cs, Numeral c := by
    rw [List.forall_mem_append]
    refine ⟨fun c hc => ?_, h⟩
    obtain rfl := List.eq_of_mem_replicate hc
    decide
  unfold pointed
  split
  · exact h
  · simp only
    rw [List.forall_mem_append, List.forall_mem_cons]
    exact ⟨fun c hc => hpadded c (List.mem_of_mem_take hc), by decide,
      fun c hc => hpadded c (List.mem_of_mem_drop hc)⟩

theorem numeral_mantissaText (h : ∀ c ∈ cs, Numeral c) : ∀ c ∈ mantissaText cs, Numeral c := by
  unfold mantissaText
  split
  · exact h
  · exact h
  · rw [List.forall_mem_cons] at h
    rw [List.forall_mem_cons, List.forall_mem_cons]
    exact ⟨h.1, by decide, h.2⟩

theorem numeral_exponentText (e : Int) : ∀ c ∈ exponentText e, Numeral c := by
  have hsign : Numeral (if e < 0 then '-' else '+') := by split <;> decide
  rw [exponentText, List.forall_mem_cons, List.forall_mem_append]
  refine ⟨hsign, fun c hc => ?_, fun c hc => numeral_of_mem_digitsText hc⟩
  obtain rfl := List.eq_of_mem_replicate hc
  decide

theorem Decimal.numeral_text (d : Decimal) : ∀ c ∈ d.text, Numeral c := by
  have hdigits : ∀ c ∈ digitsText d.digits, Numeral c := fun c hc => numeral_of_mem_digitsText hc
  unfold Decimal.text
  simp only
  split
  · split
    · rw [List.forall_mem_append, List.forall_mem_append, List.forall_mem_cons,
        List.forall_mem_singleton]
      refine ⟨⟨hdigits, fun c hc => ?_⟩, by decide⟩
      obtain rfl := List.eq_of_mem_replicate hc
      decide
    · exact numeral_pointed hdigits _
  · rw [List.forall_mem_append, List.forall_mem_cons]
    exact ⟨numeral_mantissaText hdigits, by decide, numeral_exponentText _⟩

theorem Binary64.numeral_text (x : Binary64) : TextOver Numeral x.text := by
  unfold Binary64.text
  split
  · decide
  · split <;> decide
  · split <;> decide
  · next s u _ =>
    rw [textOver_ofList, List.forall_mem_append]
    refine ⟨?_, Decimal.numeral_text _⟩
    unfold signText
    split
    · exact List.forall_mem_singleton.mpr (by decide)
    · exact List.forall_mem_nil _

end Number

theorem numeral_intText (n : Int) : TextOver Number.Numeral (intText n) := by
  have hsign : TextOver Number.Numeral (if n < 0 then "-" else "") := by split <;> decide
  exact hsign.append (textOver_ofList.mpr fun c hc => Number.numeral_of_mem_digitsText hc)

theorem inert_intText (n : Int) : TextOver Inert (intText n) := fun c hc =>
  (numeral_intText n c hc).inert

/-! ## Values -/

theorem inert_bracketed {opening closing : String} {parts : List String}
    (hopening : TextOver Inert opening) (hparts : ∀ s ∈ parts, TextOver Inert s)
    (hclosing : TextOver Inert closing) : TextOver Inert (bracketed opening parts closing) :=
  (hopening.append (TextOver.intercalate (by decide) hparts)).append hclosing

theorem inert_dateParts (d : Time.Date) : ∀ s ∈ dateParts d, TextOver Inert s := by
  intro s hs
  obtain ⟨n, -, rfl⟩ := List.mem_map.mp hs
  exact inert_intText n

theorem inert_clockParts (t : Time.ClockTime) : ∀ s ∈ clockParts t, TextOver Inert s := by
  intro s hs
  obtain ⟨n, -, rfl⟩ := List.mem_map.mp hs
  exact inert_intText n

theorem inert_offsetShown (minutes : Int) : TextOver Inert (offsetShown minutes) := by
  unfold offsetShown
  split
  · decide
  · refine inert_bracketed (by decide) (fun s hs => ?_) (by decide)
    rcases List.mem_append.mp hs with hs | hs <;> split at hs
    · contradiction
    · obtain rfl := List.mem_singleton.mp hs
      exact TextOver.append (by decide) (inert_intText _)
    · contradiction
    · obtain rfl := List.mem_singleton.mp hs
      exact TextOver.append (by decide) (inert_intText _)

theorem inert_momentShown (m : Time.Moment) : TextOver Inert (momentShown m) := by
  refine inert_bracketed (by decide) (fun s hs => ?_) (by decide)
  rw [List.mem_append, List.mem_append] at hs
  rcases hs with (hs | hs) | hs
  · exact inert_dateParts m.date s hs
  · exact inert_clockParts m.time s hs
  · split at hs
    · contradiction
    · obtain rfl := List.mem_singleton.mp hs
      exact TextOver.append (by decide) (inert_offsetShown _)

namespace Value

theorem plain_bool (b : Bool) : (bool b).plain = if b then "True" else "False" := by
  rw [plain, shown]
  all_goals simp

mutual

/-- Every character of the texts in a value satisfies `P`, keys and the names of types among
them. -/
def Over (P : Char → Prop) : Value → Prop
  | text s | type s _ | object s _ => TextOver P s
  | list _ items | tuple _ items | set _ _ items => AllOver P items
  | mapping _ _ entries => EntriesOver P entries
  | _ => True

/-- The same for all values of a row. -/
def AllOver (P : Char → Prop) : List Value → Prop
  | [] => True
  | v :: vs => Over P v ∧ AllOver P vs

/-- The same for all keys and values of entries. -/
def EntriesOver (P : Char → Prop) : List (Value × Value) → Prop
  | [] => True
  | (key, v) :: es => Over P key ∧ Over P v ∧ EntriesOver P es

end

variable {P : Char → Prop}

theorem entriesOver_iff {es : List (Value × Value)} :
    EntriesOver P es ↔ ∀ e ∈ es, e.1.Over P ∧ e.2.Over P := by
  induction es with
  | nil => simp [EntriesOver]
  | cons e es ih =>
    obtain ⟨key, v⟩ := e
    rw [EntriesOver, ih, List.forall_mem_cons, and_assoc]

mutual

/-- **The form that messages show** has inert characters only, if the names of types do. -/
theorem inert_shown : ∀ {v : Value}, v.Over Inert → TextOver Inert v.shown
  -- along the value: each form puts marks that are inert around parts that are
  | .null, _ => by
    rw [shown]
    decide
  | .bool b, _ => by
    rw [shown]
    cases b <;> decide
  | .int n, _ => by
    rw [shown]
    exact inert_intText n
  | .float x, _ => by
    rw [shown]
    exact fun c hc => (x.numeral_text c hc).inert
  | .text s, _ => by
    rw [shown]
    exact Text.inert_quoted s
  | .octets growable bs, _ => by
    have hquoted := Text.inert_quotedOctets growable bs
    rw [shown]
    split
    · exact inert_bracketed (by decide) (List.forall_mem_singleton.mpr hquoted) (by decide)
    · exact hquoted
  | .list _ items, h => by
    rw [Over] at h
    rw [shown]
    exact inert_bracketed (by decide) (inert_shownItems h) (by decide)
  | .tuple _ items, h => by
    rw [Over] at h
    have hitems := inert_shownItems h
    rw [shown]
    split
    · next one heq =>
      rw [heq, List.forall_mem_singleton] at hitems
      exact (TextOver.append (by decide) hitems).append (by decide)
    · exact inert_bracketed (by decide) hitems (by decide)
  | .set _ frozen items, h => by
    rw [Over] at h
    have hitems := inert_shownItems h
    rw [shown]
    split
    · cases frozen <;> decide
    · split
      · exact inert_bracketed (by decide) hitems (by decide)
      · exact inert_bracketed (by decide) hitems (by decide)
  | .mapping _ view entries, h => by
    rw [Over] at h
    have hbody : TextOver Inert (bracketed "\x7b" (shownEntries entries) "\x7d") :=
      inert_bracketed (by decide) (inert_shownEntries h) (by decide)
    rw [shown]
    split
    · exact (TextOver.append (by decide) hbody).append (by decide)
    · exact hbody
  | .range a b c, _ => by
    rw [shown]
    refine inert_bracketed (by decide) (fun s hs => ?_) (by decide)
    rcases List.mem_append.mp hs with hs | hs
    · obtain ⟨n, -, rfl⟩ := List.mem_map.mp hs
      exact inert_intText n
    · split at hs
      · contradiction
      · obtain rfl := List.mem_singleton.mp hs
        exact inert_intText c
  | .type name _, h => by
    rw [Over] at h
    rw [shown]
    exact (TextOver.append (by decide) h).append (by decide)
  | .object name _, h => by
    rw [Over] at h
    rw [shown]
    exact (TextOver.append (by decide) h).append (by decide)
  | .date _ d, _ => by
    rw [shown]
    exact inert_bracketed (by decide) (inert_dateParts d) (by decide)
  | .moment _ m, _ => by
    rw [shown]
    exact inert_momentShown m
  | .clock _ t, _ => by
    rw [shown]
    exact inert_bracketed (by decide) (inert_clockParts t) (by decide)

theorem inert_shownItems : ∀ {vs : List Value}, AllOver Inert vs →
    ∀ s ∈ shownItems vs, TextOver Inert s
  | [], _ => by simp [shownItems]
  | v :: vs, h => by
    rw [AllOver] at h
    rw [shownItems, List.forall_mem_cons]
    exact ⟨inert_shown h.1, inert_shownItems h.2⟩

theorem inert_shownEntries : ∀ {es : List (Value × Value)}, EntriesOver Inert es →
    ∀ s ∈ shownEntries es, TextOver Inert s
  | [], _ => by simp [shownEntries]
  | (key, v) :: es, h => by
    rw [EntriesOver] at h
    rw [shownEntries, List.forall_mem_cons]
    exact ⟨((inert_shown h.1).append (by decide)).append (inert_shown h.2.1),
      inert_shownEntries h.2.2⟩

end

/-- The name of a value's type is inert too. -/
theorem inert_typeName {v : Value} (h : v.Over Inert) : TextOver Inert v.typeName := by
  cases v with
  | object name serial =>
    rw [Over] at h
    exact h
  | octets growable bs | set label growable items | mapping label growable entries =>
    rw [typeName]
    cases growable <;> decide
  | _ =>
    rw [typeName]
    decide

end Value

end PropertyFilter
