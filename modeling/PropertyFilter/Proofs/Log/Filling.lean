import PropertyFilter.Log.Template
import PropertyFilter.Proofs.Outcomes
import PropertyFilter.Terminal.Escape

/-!
# Templates between style codes

A template that begins and ends with style codes makes the text that it makes without them, between
the same codes. In front this is so because a style code holds no placeholder. Behind it takes more:
a placeholder that is left open at the end of a template reads on into the code. But the escape
character that a code begins with is no part of any placeholder, so that such a template fails with
the code and without it.

## Main definitions

* `Template.IsClosing tail`: a text that closes whatever placeholder is left open

## Main results

* `Template.IsClosing.fillOne`: a placeholder, with a closing text behind the template
* `Template.IsClosing.fillFrom`, `Template.fillFrom_prepend`: a template with a text behind or in
  front
* `Template.fill_between`: both
-/

namespace PropertyFilter

namespace Template

/-- A text that closes whatever placeholder is left open: it begins with an escape character, and
holds no placeholder and no closing parenthesis. -/
structure IsClosing (tail : List Char) : Prop where
  head : ∃ more, tail = Terminal.esc :: more
  notPercent : '%' ∉ tail
  notParenthesis : ')' ∉ tail

variable {tail : List Char}

/-! ## Readers -/

theorem takeKey_eq_none {cs : List Char} (h : ')' ∉ cs) (depth : Nat) :
    takeKey depth cs = none := by
  induction cs generalizing depth with
  | nil => simp [takeKey]
  | cons c cs ih =>
    rw [List.mem_cons, not_or] at h
    simp [takeKey, Ne.symm h.1, ih h.2]

/-- A key that is open stays open. -/
theorem takeKey_append (h : ')' ∉ tail) (depth : Nat) (cs : List Char) :
    takeKey depth (cs ++ tail) = (takeKey depth cs).map fun (key, rest) => (key, rest ++ tail) := by
  induction cs generalizing depth with
  | nil => simp [takeKey, takeKey_eq_none h depth]
  | cons c cs ih =>
    by_cases hc : c = ')'
    · subst hc
      cases depth with
      | zero => simp [takeKey]
      | succ depth => simp [takeKey, ih, Function.comp_def]
    · simp [takeKey, hc, ih, Function.comp_def]

theorem readKey_of_head {cs : List Char} (h : cs.head? ≠ some '(') (a : Pending) :
    readKey a cs = .ok (a, cs) := by
  unfold readKey
  split
  · simp at h
  · rfl

theorem readExtent_of_head {cs : List Char} (h : cs.head? ≠ some '*') (maxExtent : Nat)
    (a : Pending) :
    readExtent maxExtent a cs =
      if (cs.takeWhile Char.isDigit).isEmpty then .ok (none, a, cs)
      else if maxExtent < Number.digitsValue (cs.takeWhile Char.isDigit) then .error .malformed
      else .ok (some (Number.digitsValue (cs.takeWhile Char.isDigit) : Int), a,
        cs.dropWhile Char.isDigit) := by
  unfold readExtent
  split
  · simp at h
  · rfl

theorem readPrecision_of_head {cs : List Char} (h : cs.head? ≠ some '.') (a : Pending)
    (p : Placeholder) : readPrecision a p cs = .ok (p, a, cs) := by
  unfold readPrecision
  split
  · simp at h
  · rfl

namespace IsClosing

variable (h : IsClosing tail) {cs : List Char} {c : Char}
include h

/-- Behind a template, a closing text brings in no first character but the escape character. -/
theorem head?_ne (hc : c ≠ Terminal.esc) (hcs : cs.head? ≠ some c) :
    (cs ++ tail).head? ≠ some c := by
  cases cs with
  | nil =>
    obtain ⟨more, rfl⟩ := h.head
    simpa using hc.symm
  | cons d cs => simpa using hcs

theorem readKey (a : Pending) (cs : List Char) :
    Alongside (fun r r' => r' = (r.1, r.2 ++ tail)) (readKey a cs)
      (Template.readKey a (cs ++ tail)) := by
  by_cases hcs : cs.head? = some '('
  · obtain ⟨rest, rfl⟩ := List.head?_eq_some_iff.mp hcs
    simp only [List.cons_append, Template.readKey, takeKey_append h.notParenthesis]
    cases a.entries with
    | none => exact .error _ _
    | some entries =>
      cases takeKey 0 rest with
      | none => exact .error _ _
      | some found =>
        simp only [Option.map_some]
        cases Entries.findText? entries (String.ofList found.1) with
        | none => exact .error _ _
        | some v => exact .ok rfl
  · rw [readKey_of_head hcs, readKey_of_head (h.head?_ne (by decide) hcs)]
    exact .ok rfl

theorem readFlags (p : Placeholder) (cs : List Char) :
    readFlags p (cs ++ tail) =
      ((Template.readFlags p cs).1, (Template.readFlags p cs).2 ++ tail) := by
  induction cs generalizing p with
  | nil =>
    obtain ⟨more, rfl⟩ := h.head
    rfl
  | cons c cs ih =>
    rw [List.cons_append, Template.readFlags, Template.readFlags]
    cases p.flag? c with
    | none => rfl
    | some p' => exact ih p'

/-- Digits at the end of a template are followed by no more digits. -/
theorem takeWhile_isDigit (cs : List Char) :
    (cs ++ tail).takeWhile Char.isDigit = cs.takeWhile Char.isDigit ∧
      (cs ++ tail).dropWhile Char.isDigit = cs.dropWhile Char.isDigit ++ tail := by
  induction cs with
  | nil =>
    obtain ⟨more, rfl⟩ := h.head
    exact ⟨rfl, rfl⟩
  | cons c cs ih =>
    simp only [List.cons_append, List.takeWhile_cons, List.dropWhile_cons]
    cases c.isDigit with
    | false => exact ⟨rfl, rfl⟩
    | true => exact ⟨congrArg (c :: ·) ih.1, ih.2⟩

theorem readExtent (maxExtent : Nat) (a : Pending) (cs : List Char) :
    Alongside (fun r r' => r' = (r.1, r.2.1, r.2.2 ++ tail)) (readExtent maxExtent a cs)
      (Template.readExtent maxExtent a (cs ++ tail)) := by
  by_cases hcs : cs.head? = some '*'
  · obtain ⟨rest, rfl⟩ := List.head?_eq_some_iff.mp hcs
    simp only [List.cons_append, Template.readExtent]
    refine (Alongside.same a.next (R := Eq) fun _ _ => rfl).bind ?_
    rintro ⟨v, a⟩ _ - rfl
    cases v with
    | int n =>
      simp only
      split
      · exact .error _ _
      · exact .ok rfl
    | bool b => exact .ok rfl
    | _ => exact .error _ _
  · obtain ⟨htake, hdrop⟩ := h.takeWhile_isDigit cs
    rw [readExtent_of_head hcs, readExtent_of_head (h.head?_ne (by decide) hcs), htake, hdrop]
    split
    · exact .ok rfl
    split
    · exact .error _ _
    · exact .ok rfl

theorem readPrecision (a : Pending) (p : Placeholder) (cs : List Char) :
    Alongside (fun r r' => r' = (r.1, r.2.1, r.2.2 ++ tail)) (readPrecision a p cs)
      (Template.readPrecision a p (cs ++ tail)) := by
  by_cases hcs : cs.head? = some '.'
  · obtain ⟨rest, rfl⟩ := List.head?_eq_some_iff.mp hcs
    simp only [List.cons_append, Template.readPrecision]
    refine (h.readExtent maxPrecision a rest).bind ?_
    rintro ⟨n, a, rest⟩ _ - rfl
    exact .ok rfl
  · rw [readPrecision_of_head hcs, readPrecision_of_head (h.head?_ne (by decide) hcs)]
    exact .ok rfl

theorem skipLength (cs : List Char) : skipLength (cs ++ tail) = Template.skipLength cs ++ tail := by
  cases cs with
  | nil =>
    obtain ⟨more, rfl⟩ := h.head
    rfl
  | cons c cs =>
    rw [List.cons_append, Template.skipLength, Template.skipLength]
    split <;> rfl

/-- **A placeholder** is filled with a closing text behind the template as without: one that is left
open reads up to the escape character, which is no letter of a placeholder. -/
theorem fillOne (a : Pending) (cs : List Char) :
    Alongside (fun r r' => r' = (r.1, r.2.1, r.2.2 ++ tail)) (fillOne a cs)
      (Template.fillOne a (cs ++ tail)) := by
  unfold Template.fillOne
  refine (h.readKey a cs).bind ?_
  rintro ⟨a, cs⟩ _ - rfl
  simp only [h.readFlags]
  refine (h.readExtent maxWidth a _).bind ?_
  rintro ⟨width, a, cs⟩ _ - rfl
  refine (h.readPrecision a _ cs).bind ?_
  rintro ⟨p, a, cs⟩ _ - rfl
  simp only [h.skipLength]
  cases Template.skipLength cs with
  | nil =>
    obtain ⟨more, rfl⟩ := h.head
    refine Alongside.error_left _ ?_
    rintro ⟨text, a', rest⟩ hok
    obtain ⟨⟨v, a⟩, -, hok⟩ := exists_of_bind_ok hok
    obtain ⟨text, htext, -⟩ := exists_of_bind_ok hok
    simp [layOut, Terminal.esc] at htext
  | cons letter rest =>
    refine (Alongside.same a.next (R := Eq) fun _ _ => rfl).bind ?_
    rintro ⟨v, a⟩ _ - rfl
    refine (Alongside.same (layOut p letter v) (R := Eq) fun _ _ => rfl).bind ?_
    rintro text _ - rfl
    exact .ok rfl

end IsClosing

/-! ## What is left of a template -/

theorem length_of_takeKey {depth : Nat} {cs key rest : List Char}
    (h : takeKey depth cs = some (key, rest)) : rest.length < cs.length := by
  induction cs generalizing depth key with
  | nil => simp [takeKey] at h
  | cons c cs ih =>
    rw [List.length_cons]
    have hlater : ∀ depth : Nat,
        (takeKey depth cs).map (fun found => (c :: found.1, found.2)) = some (key, rest) →
          rest.length < cs.length + 1 := by
      intro depth hmap
      obtain ⟨found, hfound, heq⟩ := Option.map_eq_some_iff.mp hmap
      obtain ⟨key', rest'⟩ := found
      obtain rfl : rest' = rest := (Prod.mk.inj heq).2
      exact Nat.lt_succ_of_lt (ih hfound)
    by_cases hc : c = ')'
    · subst hc
      cases depth with
      | zero =>
        obtain ⟨-, rfl⟩ := Prod.mk.inj (Option.some.inj (by simpa [takeKey] using h))
        exact Nat.lt_succ_self _
      | succ depth => exact hlater depth (by simpa [takeKey] using h)
    · exact hlater _ (by simpa only [takeKey, if_neg hc] using h)

theorem length_of_readKey {a a' : Pending} {cs rest : List Char}
    (h : readKey a cs = .ok (a', rest)) : rest.length ≤ cs.length := by
  unfold readKey at h
  split at h
  · split at h
    · contradiction
    · split at h
      · contradiction
      · next hkey =>
        split at h
        · contradiction
        · obtain ⟨-, rfl⟩ := Prod.mk.inj (Except.ok.inj h)
          exact Nat.le_succ_of_le (Nat.le_of_lt (length_of_takeKey hkey))
  · obtain ⟨-, rfl⟩ := Prod.mk.inj (Except.ok.inj h)
    exact Nat.le_refl _

theorem length_readFlags (p : Placeholder) (cs : List Char) :
    (readFlags p cs).2.length ≤ cs.length := by
  induction cs generalizing p with
  | nil => exact Nat.le_refl _
  | cons c cs ih =>
    rw [readFlags]
    split
    · exact Nat.le_succ_of_le (ih _)
    · exact Nat.le_refl _

theorem length_of_readExtent {maxExtent : Nat} {a a' : Pending} {cs rest : List Char}
    {n : Option Int} (h : readExtent maxExtent a cs = .ok (n, a', rest)) :
    rest.length ≤ cs.length := by
  by_cases hcs : cs.head? = some '*'
  · obtain ⟨behind, rfl⟩ := List.head?_eq_some_iff.mp hcs
    obtain ⟨⟨v, a⟩, -, h⟩ := exists_of_bind_ok h
    suffices hrest : rest = behind by
      rw [hrest]
      exact Nat.le_succ _
    cases v with
    | int n =>
      simp only at h
      split at h
      · contradiction
      · cases h
        rfl
    | bool b =>
      cases h
      rfl
    | _ => contradiction
  · rw [readExtent_of_head hcs] at h
    split at h
    · cases h
      exact Nat.le_refl _
    split at h
    · contradiction
    · cases h
      exact (List.dropWhile_suffix _).length_le

theorem length_of_readPrecision {a a' : Pending} {p p' : Placeholder} {cs rest : List Char}
    (h : readPrecision a p cs = .ok (p', a', rest)) : rest.length ≤ cs.length := by
  by_cases hcs : cs.head? = some '.'
  · obtain ⟨behind, rfl⟩ := List.head?_eq_some_iff.mp hcs
    obtain ⟨⟨n, a, rest⟩, hextent, h⟩ := exists_of_bind_ok h
    cases h
    exact Nat.le_succ_of_le (length_of_readExtent hextent)
  · rw [readPrecision_of_head hcs] at h
    cases h
    exact Nat.le_refl _

theorem length_skipLength (cs : List Char) : (skipLength cs).length ≤ cs.length := by
  unfold skipLength
  split
  · split
    · exact Nat.le_succ _
    · exact Nat.le_refl _
  · exact Nat.le_refl _

/-- A placeholder takes up some of the template. -/
theorem length_of_fillOne {a a' : Pending} {cs text rest : List Char}
    (h : fillOne a cs = .ok (text, a', rest)) : rest.length < cs.length := by
  obtain ⟨⟨a₁, cs₁⟩, hkey, h⟩ := exists_of_bind_ok h
  obtain ⟨⟨width, a₂, cs₂⟩, hwidth, h⟩ := exists_of_bind_ok h
  obtain ⟨⟨p, a₃, cs₃⟩, hprecision, h⟩ := exists_of_bind_ok h
  simp only at h
  split at h
  · contradiction
  · next letter rest' hletter =>
    obtain ⟨⟨v, a₄⟩, -, h⟩ := exists_of_bind_ok h
    obtain ⟨text', -, h⟩ := exists_of_bind_ok h
    cases h
    have hskip := length_skipLength cs₃
    rw [hletter, List.length_cons] at hskip
    have hflags := length_readFlags .plain cs₁
    have hfirst := length_of_readKey hkey
    have hsecond := length_of_readExtent hwidth
    have hthird := length_of_readPrecision hprecision
    omega

/-! ## Whole templates -/

theorem fillFrom_of_ne {c : Char} (hc : c ≠ '%') (fuel : Nat) (a : Pending) (cs : List Char) :
    fillFrom (fuel + 1) a (c :: cs) = (do return c :: (← fillFrom fuel a cs)) := by
  simp [fillFrom, hc]

theorem fillFrom_of_head {cs : List Char} (h : cs.head? ≠ some '%') (fuel : Nat) (a : Pending) :
    fillFrom (fuel + 1) a ('%' :: cs) = (do
      let (text, a, rest) ← fillOne a cs
      return text ++ (← fillFrom fuel a rest)) := by
  cases cs with
  | nil => simp only [fillFrom]
  | cons c cs =>
    have hc : c ≠ '%' := by simpa using h
    simp [fillFrom, hc]

/-- A text without placeholders, in front of a template, stays. -/
theorem fillFrom_prepend {front : List Char} (h : '%' ∉ front) (fuel : Nat) (a : Pending)
    (cs : List Char) :
    fillFrom (front.length + fuel) a (front ++ cs) = (fillFrom fuel a cs).map (front ++ ·) := by
  induction front with
  | nil => cases hfill : fillFrom fuel a cs <;> simp [hfill, Except.map]
  | cons c front ih =>
    rw [List.mem_cons, not_or] at h
    have hfuel : (c :: front).length + fuel = (front.length + fuel) + 1 := by
      rw [List.length_cons]
      omega
    rw [hfuel, List.cons_append, fillFrom_of_ne (Ne.symm h.1), ih h.2]
    cases fillFrom fuel a cs <;> rfl

/-- **A template with a closing text behind** makes the text that it makes without it, with the
closing text behind, or fails as well. -/
theorem IsClosing.fillFrom (h : IsClosing tail) {fuel : Nat} {cs : List Char}
    (hfuel : cs.length < fuel) (a : Pending) :
    Alongside (fun out out' => out' = out ++ tail) (fillFrom fuel a cs)
      (Template.fillFrom (fuel + tail.length) a (cs ++ tail)) := by
  -- every placeholder, and every other character, takes up some of the template
  induction fuel generalizing a cs with
  | zero => contradiction
  | succ fuel ih =>
    cases cs with
    | nil =>
      have htail := fillFrom_prepend h.notPercent (fuel + 1) a []
      rw [List.append_nil, Nat.add_comm] at htail
      rw [List.nil_append, htail]
      simp only [Template.fillFrom]
      split
      · exact .ok (List.append_nil tail)
      · exact .error _ _
    | cons c cs =>
      rw [List.length_cons, Nat.add_lt_add_iff_right] at hfuel
      rw [Nat.add_right_comm]
      by_cases hc : c = '%'
      · subst hc
        by_cases hcs : cs.head? = some '%'
        · obtain ⟨rest, rfl⟩ := List.head?_eq_some_iff.mp hcs
          simp only [List.cons_append, Template.fillFrom]
          rw [List.length_cons] at hfuel
          refine (ih (Nat.lt_of_succ_lt hfuel) a).bind ?_
          rintro out _ - rfl
          exact .ok rfl
        · rw [List.cons_append, fillFrom_of_head hcs,
            fillFrom_of_head (h.head?_ne (by decide) hcs)]
          refine (h.fillOne a cs).bind ?_
          rintro ⟨text, a, rest⟩ _ hone rfl
          refine (ih (Nat.lt_trans (length_of_fillOne hone) hfuel) a).bind ?_
          rintro out _ - rfl
          exact .ok (List.append_assoc _ _ _).symm
      · rw [List.cons_append, fillFrom_of_ne hc, fillFrom_of_ne hc]
        refine (ih hfuel a).bind ?_
        rintro out _ - rfl
        exact .ok rfl

/-- **A template between two texts**, the one in front without placeholders and the one behind
closing, makes the text that it makes alone, between the two, or fails as well. -/
theorem fill_between {front : String} (hfront : '%' ∉ front.toList) {back : String}
    (hback : IsClosing back.toList) (template : String) (arguments : Arguments) :
    Alongside (fun out out' => out' = front ++ out ++ back) (fill template arguments)
      (fill (front ++ template ++ back) arguments) := by
  have hlength : (front ++ template ++ back).toList.length + 1 =
      front.toList.length + (template.toList.length + 1 + back.toList.length) := by
    simp only [String.toList_append, List.length_append]
    omega
  have hclosed := hback.fillFrom (Nat.lt_succ_self template.toList.length) (.ofArguments arguments)
  simp only [fill, hlength]
  rw [String.toList_append, String.toList_append, List.append_assoc, fillFrom_prepend hfront]
  have hmap : ∀ x : Except Fault (List Char), (x.map (front.toList ++ ·)).map String.ofList =
      x.map fun out => String.ofList (front.toList ++ out) := by
    intro x
    cases x <;> rfl
  rw [hmap]
  refine hclosed.map ?_
  rintro out _ rfl
  rw [← String.toList_inj]
  simp

end Template

end PropertyFilter
