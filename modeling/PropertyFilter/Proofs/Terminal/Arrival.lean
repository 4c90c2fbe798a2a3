import PropertyFilter.Proofs.Terminal.Decisions

/-!
# Coloured text on its way to the terminal

Whether text is coloured is a matter of the last decision only. What arrives of it is a matter of
all decisions, since a layer that deletes sequences is never taken away: coloured text arrives as it
was written if there have been colours all the time, and else it arrives without its style codes,
though colours are on.

## Main definitions

* `unmarked cs`: a text without the marks at its ends that style codes around it take with them
* `ColorSupport.AlwaysOn e steps`: in a history that begins in `e`, there have been colours from the
  start on

## Main results

* `deliver_styled`: what deleting layers make of a text between style codes
* `ColorSupport.layers_run_eq_zero_iff`: when there is no layer
* `ColorSupport.arrival_of_colored`: what arrives of coloured text, after any history
-/

namespace PropertyFilter.Terminal

variable {cs : List Char}

/-! ## Text between style codes -/

/-- A text without the start-of-heading character at its end, if there is one. -/
def withoutHeading : List Char → List Char
  | [] => []
  | ['\x01'] => []
  | c :: cs => c :: withoutHeading cs

/-- A text without the marks that style codes around it take with them: a start-of-text character at
its beginning, and a start-of-heading character at its end. -/
def unmarked (cs : List Char) : List Char := withoutHeading (cs.drop (tailLength cs))

theorem mem_of_mem_withoutHeading {c : Char} (h : c ∈ withoutHeading cs) : c ∈ cs := by
  fun_induction withoutHeading cs with
  | case1 => exact h
  | case2 => contradiction
  | case3 c' cs _ ih =>
    rcases List.mem_cons.mp h with rfl | h
    · exact List.mem_cons_self
    · exact List.mem_cons_of_mem c' (ih h)

theorem mem_of_mem_unmarked {c : Char} (h : c ∈ unmarked cs) : c ∈ cs :=
  List.mem_of_mem_drop (mem_of_mem_withoutHeading h)

theorem tailLength_codeText (n : Nat) (cs : List Char) :
    tailLength ((codeText n).toList ++ cs) = 0 := by
  rw [codeText_eq]
  rfl

theorem tailLength_le (cs : List Char) : tailLength cs ≤ cs.length := by
  unfold tailLength
  split <;> simp

/-- A style code ends a piece and begins a new one, behind the mark that it takes with it. -/
theorem flatten_piecesFrom_codeText (n : Nat) (piece cs : List Char) :
    (piecesFrom 0 piece ((codeText n).toList ++ cs)).flatten =
      piece.reverse ++ (piecesFrom 0 [] (cs.drop (tailLength cs))).flatten := by
  have hcode := controlLength?_codeText n cs
  have htail := tailLength_le cs
  obtain ⟨rest, hrest⟩ : ∃ rest, (codeText n).toList = esc :: rest := ⟨_, codeText_eq n⟩
  have hskip : rest.length + tailLength cs ≤ (rest ++ cs).length := by
    rw [List.length_append]
    omega
  rw [hrest, List.cons_append] at hcode ⊢
  have hlength : (esc :: rest).length + tailLength cs - 1 = rest.length + tailLength cs := by
    rw [List.length_cons]
    omega
  rw [piecesFrom, hcode]
  simp only [List.flatten_cons]
  rw [hlength, piecesFrom_of_le hskip, List.drop_append, List.drop_eq_nil_of_le (by omega),
    List.nil_append, Nat.add_sub_cancel_left]

/-- No sequence begins with a character other than the escape character, unless it is a mark in
front of one. -/
theorem controlLength?_cons_of_ne {c : Char} (hc : c ≠ esc)
    (hnext : c = '\x01' → ∀ rest, cs ≠ esc :: rest) : controlLength? (c :: cs) = none := by
  have hbehind : ∀ rest, (skipHeading (c :: cs)).2 ≠ '\x1b' :: '[' :: rest := by
    intro rest
    unfold skipHeading
    split
    · next heq =>
      obtain ⟨rfl, rfl⟩ := List.cons.inj heq
      exact hnext rfl _
    · exact fun heq => hc (List.cons.inj heq).1
  unfold controlLength?
  simp only

/-- A text in front of a last style code loses the mark at its end. -/
theorem flatten_piecesFrom_before_codeText (h : esc ∉ cs) (n : Nat) (piece : List Char) :
    (piecesFrom 0 piece (cs ++ (codeText n).toList)).flatten =
      piece.reverse ++ withoutHeading cs := by
  -- the induction follows the text; only a mark right in front of the code is taken with it
  fun_induction withoutHeading cs generalizing piece with
  | case1 =>
    have hcode := flatten_piecesFrom_codeText n piece []
    rw [List.append_nil] at hcode
    exact hcode
  | case2 =>
    have hheading : skipHeading ('\x01' :: (codeText n).toList) =
        (1, (codeText n).toList ++ []) := by
      simp [skipHeading]
    have hcode := controlLength?_of_skipHeading hheading
    have htail : tailLength [] = 0 := rfl
    have hlength : 1 + (codeText n).toList.length + tailLength [] - 1 =
        (codeText n).toList.length := by omega
    rw [List.singleton_append, piecesFrom, hcode]
    simp only [List.flatten_cons]
    rw [hlength, piecesFrom_of_le (Nat.le_refl _), List.drop_length]
    rfl
  | case3 c cs hmark ih =>
    rw [List.mem_cons, not_or] at h
    have hnone : controlLength? (c :: (cs ++ (codeText n).toList)) = none := by
      refine controlLength?_cons_of_ne (Ne.symm h.1) fun hc rest hrest => ?_
      cases cs with
      | nil => exact hmark hc rfl
      | cons c' cs => exact h.2 ((List.cons.inj hrest).1 ▸ List.mem_cons_self)
    rw [List.cons_append, piecesFrom, hnone]
    simp only
    rw [ih h.2, List.reverse_cons, List.append_assoc, List.singleton_append]

/-- What is left of a text between style codes, when the codes have been deleted. -/
theorem flatten_piecesFrom_styled (h : esc ∉ cs) (n m : Nat) :
    (piecesFrom 0 [] ((codeText n).toList ++ (cs ++ (codeText m).toList))).flatten =
      unmarked cs := by
  have htail : tailLength (cs ++ (codeText m).toList) = tailLength cs := by
    cases cs with
    | nil =>
      have hreset := tailLength_codeText m []
      rwa [List.append_nil] at hreset
    | cons c cs =>
      unfold tailLength
      split <;> simp_all
  rw [flatten_piecesFrom_codeText, htail, List.drop_append_of_le_length (tailLength_le cs),
    flatten_piecesFrom_before_codeText fun hmem => h (List.mem_of_mem_drop hmem)]
  rfl

variable {text : String}

theorem coded_styled (h : esc ∉ text.toList) (isBright : Bool) (n : Nat) :
    Coded (styled isBright (codeText n) text).toList := by
  have hbright : Coded (if isBright then bright else "").toList := by
    cases isBright with
    | false => exact .nil
    | true => simpa [bright] using Coded.code 1 .nil
  have hcolor : Coded (codeText n).toList := by simpa using Coded.code n .nil
  have hreset : Coded reset.toList := by simpa [reset] using Coded.code 0 .nil
  have hstyled := ((hbright.append hcolor).append (.of_plain h)).append hreset
  simpa only [styled, String.toList_append] using hstyled

/-- **Deleting layers**, one or more, take the style codes around a text away, and the marks at its
ends with them. -/
theorem deliver_styled (h : esc ∉ text.toList) (isBright : Bool) (n layers : Nat) :
    deliver (layers + 1) (styled isBright (codeText n) text).toList =
      ⟨unmarked text.toList, none⟩ := by
  have hpieces : (plainPieces (styled isBright (codeText n) text).toList).flatten =
      unmarked text.toList := by
    rw [plainPieces, List.flatten_filter_not_isEmpty]
    cases isBright with
    | false =>
      have htext : (styled false (codeText n) text).toList =
          (codeText n).toList ++ (text.toList ++ (codeText 0).toList) := by
        simp [styled, reset]
      rw [htext, flatten_piecesFrom_styled h]
    | true =>
      have htext : (styled true (codeText n) text).toList = (codeText 1).toList ++
          ((codeText n).toList ++ (text.toList ++ (codeText 0).toList)) := by
        simp [styled, reset, bright]
      rw [htext, flatten_piecesFrom_codeText, tailLength_codeText, List.drop_zero,
        flatten_piecesFrom_styled h]
      rfl
  have hplain : ∀ piece ∈ plainPieces (styled isBright (codeText n) text).toList, esc ∉ piece := by
    intro piece hpiece hesc
    have hmem : esc ∈ unmarked text.toList := hpieces ▸ List.mem_flatten.mpr ⟨piece, hpiece, hesc⟩
    exact h (mem_of_mem_unmarked hmem)
  rw [deliver, deletePieces, deleteCommands, (coded_styled h isBright n).commandsFrom_eq_nil 0]
  simp only [deleteFrom]
  rw [Tinted.all_deliver_of_plain hplain, hpieces]

/-! ## Layers after any history -/

namespace ColorSupport

/-- In a history that begins in an environment, there have been colours from the start on: they were
on then, and no step has turned them off. -/
def AlwaysOn (e : Environment) (steps : List ColorStep) : Prop :=
  (start e).state.isOn = true ∧
    ∀ done step rest, steps = done ++ step :: rest → ¬ ((start e).run done).TurnsOff step

/-- **There is no layer** around the streams if there have been colours all the time, and only
then. -/
theorem layers_run_eq_zero_iff (e : Environment) (steps : List ColorStep) :
    ((start e).run steps).state.layers = 0 ↔ AlwaysOn e steps := by
  have hsound : (start e).state.Sound := sound_run e []
  have hmore := layers_le_run hsound steps
  have hkept := layers_run_eq_iff hsound steps
  have hstart : (start e).state.layers = 0 ↔ (start e).state.isOn = true := by
    show (if (ColorState.decision e e.forced).isTruthy then 0 else 0 + 1) = 0 ↔
      (ColorState.decision e e.forced).isTruthy = true
    cases (ColorState.decision e e.forced).isTruthy <;> simp
  constructor
  · intro hnone
    have hbegin : (start e).state.layers = 0 := by omega
    exact ⟨hstart.mp hbegin, hkept.mp (hnone.trans hbegin.symm)⟩
  · rintro ⟨hon, hsteps⟩
    exact (hkept.mpr hsteps).trans (hstart.mpr hon)

/-- **What arrives of coloured text**, after any history of wishes and changes of the environment,
when colours are on: if there have been colours all the time the text arrives between its style
codes, and else without them, and no layer fails. -/
theorem arrival_of_colored (e : Environment) (steps : List ColorStep)
    (hon : ((start e).run steps).state.isOn = true) (isBright : Bool) (n : Nat) (text : String)
    (htext : text ≠ "") (hesc : esc ∉ text.toList) :
    let color := ((start e).run steps).state
    color.colored isBright (codeText n) text = styled isBright (codeText n) text ∧
    (AlwaysOn e steps → deliverLine color.layers (color.colored isBright (codeText n) text) =
      ⟨(styled isBright (codeText n) text).toList ++ ['\n'], none⟩) ∧
    (¬ AlwaysOn e steps → deliverLine color.layers (color.colored isBright (codeText n) text) =
      ⟨unmarked text.toList ++ ['\n'], none⟩) := by
  intro color
  have hcolored : color.colored isBright (codeText n) text = styled isBright (codeText n) text := by
    simp [ColorState.colored, color, hon, htext]
  have hlayers : color.layers = 0 ↔ AlwaysOn e steps := layers_run_eq_zero_iff e steps
  refine ⟨hcolored, fun halways => ?_, fun hnot => ?_⟩
  · rw [hcolored, hlayers.mpr halways]
    rfl
  · obtain ⟨layers, hsome⟩ := Nat.exists_eq_succ_of_ne_zero (mt hlayers.mp hnot)
    rw [hcolored, hsome, deliverLine, deliver_styled hesc, deliver_of_plain (by decide)]
    rfl

/-- Away from a terminal, forcing colours on puts style codes around text, but they do not
arrive. -/
theorem arrival_of_colored_forced :
    ((start .bare).run [.force (.bool true)]).state.isOn = true ∧ ("x" : String) ≠ "" ∧
      esc ∉ ("x" : String).toList ∧
      ((start .bare).run [.force (.bool true)]).state.colored false red "x" =
        "\x1b[31mx\x1b[0m" ∧
      deliverLine ((start .bare).run [.force (.bool true)]).state.layers "\x1b[31mx\x1b[0m" =
        ⟨['x', '\n'], none⟩ := by
  have hon : ((start .bare).run [.force (.bool true)]).state.isOn = true :=
    (supported_take_force_bool (sound_run .bare []) true).2
  have hesc : esc ∉ ("x" : String).toList := by decide
  have hstyled : styled false (codeText 31) "x" = "\x1b[31mx\x1b[0m" := by decide
  obtain ⟨hcolored, -, hdeleted⟩ := arrival_of_colored .bare [.force (.bool true)] hon false 31
    "x" (by decide) hesc
  have hstart : (start .bare).state.isOn = false := by decide
  have hdeleted := hdeleted fun halways => absurd halways.1 (by simp [hstart])
  rw [hcolored, hstyled] at hdeleted
  exact ⟨hon, by decide, hesc, hcolored.trans hstyled, hdeleted⟩

end ColorSupport

end PropertyFilter.Terminal
