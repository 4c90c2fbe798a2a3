import PropertyFilter.Proofs.Terminal.Tinting
import PropertyFilter.Text.Lowercase
import PropertyFilter.Text.Quoted

/-!
# Texts without characters of escape sequences

Quoting a text escapes whatever does not print, so it leaves inert characters only. Lower case does
not bring in any others.

## Main results

* `Text.inert_quoted`, `Text.inert_quotedOctets`: quoted texts and octets
* `Text.inert_lowercase`: lower case
* `inert_toString`: numbers
-/

namespace PropertyFilter

open Terminal (Inert inert_of_le inert_of_mem_toDigits)

theorem inert_toString (n : Nat) : TextOver Inert (toString n) := by
  intro c hc
  rw [Nat.toString_eq_ofList_toDigits, String.toList_ofList] at hc
  exact inert_of_mem_toDigits hc

namespace Text

variable {quote c : Char}

/-! ## Quoted texts -/

theorem inert_of_isPrintable (h : isPrintable c = true) : Inert c := by
  refine inert_of_le ?_
  unfold isPrintable at h
  split at h
  · exact of_decide_eq_true h
  · omega

theorem inert_of_mem_hexDigits {width n : Nat} (h : c ∈ hexDigits width n) : Inert c := by
  have hdigit : ∀ m < 16, Inert (hexDigit m) := by decide
  induction width generalizing n with
  | zero => simp [hexDigits] at h
  | succ width ih =>
    rw [hexDigits, List.mem_append, List.mem_singleton] at h
    rcases h with h | rfl
    · exact ih h
    · exact hdigit _ (Nat.mod_lt _ (by decide))

theorem inert_hexEscape (n : Nat) : ∀ c ∈ hexEscape n, Inert c := by
  have hnumber : ∀ letter width, Inert letter →
      ∀ c ∈ '\\' :: letter :: hexDigits width n, Inert c := by
    intro letter width hletter
    rw [List.forall_mem_cons, List.forall_mem_cons]
    exact ⟨by decide, hletter, fun c hc => inert_of_mem_hexDigits hc⟩
  unfold hexEscape
  split
  · exact hnumber 'x' 2 (by decide)
  split
  · exact hnumber 'u' 4 (by decide)
  · exact hnumber 'U' 8 (by decide)

/-- Between quotes, every character is inert: what does not print is escaped. -/
theorem inert_quotedChar (hquote : Inert quote) (c : Char) : ∀ d ∈ quotedChar quote c, Inert d := by
  have hescaped : ∀ letter, Inert letter → ∀ d ∈ ['\\', letter], Inert d := by
    intro letter hletter
    rw [List.forall_mem_cons, List.forall_mem_singleton]
    exact ⟨by decide, hletter⟩
  unfold quotedChar
  split
  · next hc =>
    rw [Bool.or_eq_true, decide_eq_true_eq, decide_eq_true_eq] at hc
    rcases hc with rfl | rfl
    · exact hescaped c hquote
    · exact hescaped '\\' (by decide)
  split
  · exact hescaped 't' (by decide)
  split
  · exact hescaped 'n' (by decide)
  split
  · exact hescaped 'r' (by decide)
  split
  · next hprintable => exact List.forall_mem_singleton.mpr (inert_of_isPrintable hprintable)
  · exact inert_hexEscape c.toNat

theorem inert_chooseQuote (cs : List Char) : Inert (chooseQuote cs) := by
  unfold chooseQuote
  split <;> decide

/-- **Quoted texts** have inert characters only, whatever the text holds. -/
theorem inert_quoted (s : String) : TextOver Inert (quoted s) := by
  have hquote := inert_chooseQuote s.toList
  rw [quoted, textOver_ofList, List.forall_mem_append, List.forall_mem_cons,
    List.forall_mem_singleton]
  refine ⟨⟨hquote, fun d hd => ?_⟩, hquote⟩
  obtain ⟨c, -, hd⟩ := List.mem_flatMap.mp hd
  exact inert_quotedChar hquote c d hd

theorem inert_quotedOctets (growable : Bool) (bs : List UInt8) :
    TextOver Inert (quotedOctets growable bs) := by
  have hquote := inert_chooseQuote (bs.map fun b => Char.ofNat b.toNat)
  have hinner :
      Inert (if growable then '\'' else chooseQuote (bs.map fun b => Char.ofNat b.toNat)) := by
    split
    · decide
    · exact hquote
  rw [quotedOctets, textOver_ofList, List.forall_mem_append, List.forall_mem_cons,
    List.forall_mem_cons, List.forall_mem_singleton]
  refine ⟨⟨by decide, hquote, fun d hd => ?_⟩, hquote⟩
  obtain ⟨b, -, hd⟩ := List.mem_flatMap.mp hd
  unfold quotedOctet at hd
  split at hd
  · exact inert_quotedChar hinner _ d hd
  · exact inert_hexEscape _ d hd

/-! ## Lower case -/

theorem inert_ofNat {n : Nat} (h : 0x20 ≤ n) : Inert (Char.ofNat n) := by
  by_cases hn : n.isValidChar
  · have hvalue : (Char.ofNat n).toNat = n := by
      rw [Char.ofNat, dif_pos hn]
      rfl
    exact inert_of_le (by omega)
  · have hnull : Char.ofNat n = '\x00' := by rw [Char.ofNat, dif_neg hn]; rfl
    rw [hnull]
    decide

/-- No capital is mapped to a control character. -/
theorem le_of_mem_caseRuns : ∀ r ∈ caseRuns, 0x20 ≤ (r.first : Int) + r.shift := by
  decide +kernel

theorem inert_lowerChar (hc : Inert c) : Inert (lowerChar c) := by
  unfold lowerChar
  split
  · next hascii =>
    have hsmall : ∀ n < 0x80, Inert (Char.ofNat n) → Inert (Char.ofNat n).toLower := by decide
    have hlower := hsmall c.toNat hascii
    rw [Char.ofNat_toNat] at hlower
    exact hlower hc
  · split
    · next r hr =>
      have hmem := List.mem_of_find?_eq_some hr
      have hrun := List.find?_some hr
      simp only [Bool.and_eq_true, decide_eq_true_eq] at hrun
      have hshift := le_of_mem_caseRuns r hmem
      exact inert_ofNat (by omega)
    · exact hc

theorem inert_lowercase {s : String} (hs : TextOver Inert s) : TextOver Inert (lowercase s) := by
  have hfrom : ∀ (cs before : List Char), (∀ c ∈ cs, Inert c) →
      ∀ c ∈ lowercaseFrom before cs, Inert c := by
    intro cs
    induction cs with
    | nil => simp
    | cons c cs ih =>
      intro before h
      rw [List.forall_mem_cons] at h
      rw [lowercaseFrom, List.forall_mem_append]
      refine ⟨?_, ih _ h.2⟩
      split
      · rw [List.forall_mem_singleton]
        split <;> exact inert_of_le (by decide)
      split
      · rw [List.forall_mem_cons, List.forall_mem_singleton]
        exact ⟨inert_of_le (by decide), inert_of_le (by decide)⟩
      · exact List.forall_mem_singleton.mpr (inert_lowerChar h.1)
  exact textOver_ofList.mpr (hfrom _ _ hs)

end Text

end PropertyFilter
