import PropertyFilter.Proofs.Terminal.Deletion
import PropertyFilter.Proofs.Text.Characters
import PropertyFilter.Terminal.Color

/-!
# Deleting style codes

A coloured text differs from the text without colours by style codes. As long as the text itself has
no character that a sequence begins with or takes with it, a deleting layer takes out the codes, and
nothing else.

## Main definitions

* `Inert c`: no sequence begins with the character, or takes it with it
* `Coded cs`: the only escape characters in a text are those of style codes
* `Tinted coloured plain`: a text with style codes, and the text without them

## Main results

* `Tinted.deliver_succ`: what deleting layers make of a coloured text
* `tinted_colored`: coloured text is the text, with style codes
-/

namespace PropertyFilter.Terminal

/-- A character that no sequence begins with or takes with it: no escape character, no
start-of-heading and no start-of-text. -/
def Inert (c : Char) : Prop := c ≠ esc ∧ c ≠ '\x01' ∧ c ≠ '\x02'

instance : DecidablePred Inert := fun _ => inferInstanceAs (Decidable (_ ∧ _ ∧ _))

-- decides by going through the list, not through all characters there are
instance (cs : List Char) : Decidable (∀ c ∈ cs, Inert c) := List.decidableBAll Inert cs

/-- Only control characters are not inert. -/
theorem inert_of_le {c : Char} (h : 0x20 ≤ c.toNat) : Inert c := by
  refine ⟨?_, ?_, ?_⟩ <;>
  · rintro rfl
    exact absurd h (by decide)

/-- A text with style codes, and the text without them. -/
inductive Tinted : (coloured plain : List Char) → Prop
  | nil : Tinted [] []
  | char {c : Char} {cs ds : List Char} (hc : Inert c) (h : Tinted cs ds) :
    Tinted (c :: cs) (c :: ds)
  | code (n : Nat) {cs ds : List Char} (h : Tinted cs ds) :
    Tinted ((codeText n).toList ++ cs) ds

/-- A text that has no escape characters but those of style codes. -/
inductive Coded : List Char → Prop
  | nil : Coded []
  | char {c : Char} {cs : List Char} (hc : c ≠ esc) (h : Coded cs) : Coded (c :: cs)
  | code (n : Nat) {cs : List Char} (h : Coded cs) : Coded ((codeText n).toList ++ cs)

variable {cs ds es fs : List Char} {c : Char} {n : Nat}

/-! ## Style codes -/

/-- What stands in a style code behind the escape character. -/
theorem codeText_eq (n : Nat) :
    (codeText n).toList = esc :: '[' :: (Nat.toDigits 10 n ++ ['m']) := by
  simp [codeText, esc]

theorem isParameter_of_mem_toDigits (h : c ∈ Nat.toDigits 10 n) : isParameter c = true := by
  have hdigit := Nat.isDigit_of_mem_toDigits (by decide) (by decide) h
  simp [isParameter, Text.isDecimalDigit_of_isDigit hdigit]

theorem inert_of_mem_toDigits (h : c ∈ Nat.toDigits 10 n) : Inert c := by
  have hdigit := Nat.isDigit_of_mem_toDigits (by decide) (by decide) h
  simp only [Char.isDigit, Bool.and_eq_true, decide_eq_true_eq, UInt32.le_iff_toNat_le,
    ge_iff_le] at hdigit
  have hlow : 48 ≤ c.toNat := hdigit.1
  exact inert_of_le (by omega)

/-! ## Recognising sequences -/

/-- No sequence begins with an inert character. -/
theorem controlLength?_of_inert (hc : Inert c) (cs : List Char) :
    controlLength? (c :: cs) = none := by
  have hheading : skipHeading (c :: cs) = (0, c :: cs) := by
    unfold skipHeading
    split
    · next heq => exact absurd (List.cons.inj heq).1 hc.2.1
    · rfl
  rw [controlLength?, hheading]
  simp only
  split
  · next heq => exact absurd (List.cons.inj heq).1 hc.1
  · rfl

theorem commandLength?_of_inert (hc : Inert c) (cs : List Char) :
    commandLength? (c :: cs) = none := by
  have hheading : skipHeading (c :: cs) = (0, c :: cs) := by
    unfold skipHeading
    split
    · next heq => exact absurd (List.cons.inj heq).1 hc.2.1
    · rfl
  rw [commandLength?, hheading]
  simp only
  split
  · next heq => exact absurd (List.cons.inj heq).1 hc.1
  · rfl

/-- **A style code is recognised**, behind a start-of-heading character or not. It takes a
start-of-text character behind it with it. -/
theorem controlLength?_of_skipHeading {heading : Nat}
    (h : skipHeading cs = (heading, (codeText n).toList ++ ds)) :
    controlLength? cs = some (heading + (codeText n).toList.length + tailLength ds) := by
  have hparameters : ∀ c ∈ Nat.toDigits 10 n, isParameter c = true :=
    fun c hc => isParameter_of_mem_toDigits hc
  have hend : isParameter 'm' = false := by decide
  have htake : (Nat.toDigits 10 n ++ 'm' :: ds).takeWhile isParameter = Nat.toDigits 10 n := by
    rw [List.takeWhile_append_of_pos hparameters]
    simp [hend]
  have hdrop : (Nat.toDigits 10 n ++ 'm' :: ds).dropWhile isParameter = 'm' :: ds := by
    rw [List.dropWhile_append_of_pos hparameters]
    simp [hend]
  have hletter : Char.isAlpha 'm' = true := by decide
  have htext : (codeText n).toList ++ ds = '\x1b' :: '[' :: (Nat.toDigits 10 n ++ 'm' :: ds) := by
    simp [codeText_eq, esc]
  have hlength : (codeText n).toList.length = 3 + (Nat.toDigits 10 n).length := by
    rw [codeText_eq, List.length_cons, List.length_cons, List.length_append, List.length_singleton]
    omega
  unfold controlLength?
  rw [h, htext]
  simp only
  rw [htake, hdrop]
  simp only
  rw [hletter, if_pos rfl, hlength]
  congr 2
  omega

theorem controlLength?_codeText (n : Nat) (cs : List Char) :
    controlLength? ((codeText n).toList ++ cs) =
      some ((codeText n).toList.length + tailLength cs) := by
  have hheading : skipHeading ((codeText n).toList ++ cs) = (0, (codeText n).toList ++ cs) := by
    rw [codeText_eq]
    rfl
  rw [controlLength?_of_skipHeading hheading, Nat.zero_add]

/-- No command begins with a style code. -/
theorem commandLength?_codeText (n : Nat) (cs : List Char) :
    commandLength? ((codeText n).toList ++ cs) = none := by
  rw [codeText_eq]
  rfl

theorem commandsFrom_inert_append (hds : ∀ c ∈ ds, Inert c) (position : Nat) (cs : List Char) :
    commandsFrom position 0 (ds ++ cs) = commandsFrom (position + ds.length) 0 cs := by
  induction ds generalizing position with
  | nil => rfl
  | cons c ds ih =>
    rw [List.forall_mem_cons] at hds
    have hposition : position + (c :: ds).length = position + 1 + ds.length := by
      rw [List.length_cons]
      omega
    rw [hposition, ← ih hds.2, List.cons_append, commandsFrom, commandLength?_of_inert hds.1]

/-- The characters of a sequence are passed over. -/
theorem piecesFrom_of_le {skip : Nat} (h : skip ≤ cs.length) (piece : List Char) :
    piecesFrom skip piece cs = piecesFrom 0 piece (cs.drop skip) := by
  induction skip generalizing cs with
  | zero => rfl
  | succ skip ih =>
    cases cs with
    | nil => contradiction
    | cons c cs =>
      rw [List.length_cons] at h
      rw [piecesFrom, ih (by omega), List.drop_succ_cons]

namespace Coded

theorem append (h : Coded cs) (h' : Coded ds) : Coded (cs ++ ds) := by
  induction h with
  | nil => exact h'
  | char hc _ ih => exact .char hc ih
  | code n _ ih =>
    rw [List.append_assoc]
    exact .code n ih

theorem of_plain (h : esc ∉ cs) : Coded cs := by
  induction cs with
  | nil => exact .nil
  | cons c cs ih =>
    rw [List.mem_cons, not_or] at h
    exact .char (Ne.symm h.1) (ih h.2)

/-- No command begins with a character in front of such a text. -/
theorem commandLength?_cons (h : Coded cs) (hc : c ≠ esc) : commandLength? (c :: cs) = none := by
  have hnext : ∀ rest, (skipHeading (c :: cs)).2 ≠ '\x1b' :: ']' :: rest := by
    intro rest
    unfold skipHeading
    split
    · next heq =>
      obtain ⟨-, rfl⟩ := List.cons.inj heq
      cases h with
      | nil => simp
      | char hc' _ => exact fun heq' => hc' (List.cons.inj heq').1
      | code n _ =>
        rw [codeText_eq]
        exact fun heq' => absurd (List.cons.inj (List.cons.inj heq').2).1 (by decide)
    · exact fun heq' => hc (List.cons.inj heq').1
  -- by `hnext`, only the last case of the definition is left
  unfold commandLength?
  simp only

/-- There are no commands among style codes. -/
theorem commandsFrom_eq_nil (h : Coded cs) (position : Nat) : commandsFrom position 0 cs = [] := by
  induction h generalizing position with
  | nil => rfl
  | char hc h ih =>
    rw [commandsFrom, h.commandLength?_cons hc]
    exact ih _
  | @code n cs _ ih =>
    have hnone := commandLength?_codeText n cs
    have hinert : ∀ c ∈ '[' :: (Nat.toDigits 10 n ++ ['m']), Inert c := by
      rw [List.forall_mem_cons, List.forall_mem_append]
      exact ⟨by decide, fun c hc => inert_of_mem_toDigits hc, by decide⟩
    rw [codeText_eq, List.cons_append] at hnone ⊢
    rw [commandsFrom, hnone]
    simp only
    rw [commandsFrom_inert_append hinert]
    exact ih _

end Coded

namespace Tinted

theorem coded (h : Tinted cs ds) : Coded cs := by
  induction h with
  | nil => exact .nil
  | char hc _ ih => exact .char hc.1 ih
  | code n _ ih => exact .code n ih

theorem append (h : Tinted cs ds) (h' : Tinted es fs) : Tinted (cs ++ es) (ds ++ fs) := by
  induction h with
  | nil => exact h'
  | char hc _ ih => exact .char hc ih
  | code n _ ih =>
    rw [List.append_assoc]
    exact .code n ih

theorem of_inert (h : ∀ c ∈ cs, Inert c) : Tinted cs cs := by
  induction cs with
  | nil => exact .nil
  | cons c cs ih =>
    rw [List.forall_mem_cons] at h
    exact .char h.1 (ih h.2)

theorem inert (h : Tinted cs ds) : ∀ c ∈ ds, Inert c := by
  induction h with
  | nil => simp
  | char hc _ ih => exact List.forall_mem_cons.mpr ⟨hc, ih⟩
  | code _ _ ih => exact ih

/-- No sequence takes the first character of such a text with it. -/
theorem tailLength (h : Tinted cs ds) : tailLength cs = 0 := by
  unfold Terminal.tailLength
  split
  · next rest =>
    generalize hcs : '\x02' :: rest = cs at h
    cases h with
    | nil => contradiction
    | char hc _ => exact absurd (List.cons.inj hcs).1.symm hc.2.2
    | code n _ =>
      rw [codeText_eq] at hcs
      exact absurd (List.cons.inj hcs).1 (by decide)
  · rfl

/-- A style code is recognised, and nothing is taken with it. -/
theorem controlLength?_code (h : Tinted cs ds) (n : Nat) :
    controlLength? ((codeText n).toList ++ cs) = some (codeText n).toList.length := by
  rw [controlLength?_codeText, h.tailLength, Nat.add_zero]

/-- The pieces between style codes make up the text without them. -/
theorem flatten_piecesFrom (h : Tinted cs ds) (piece : List Char) :
    (piecesFrom 0 piece cs).flatten = piece.reverse ++ ds := by
  induction h generalizing piece with
  | nil => simp [piecesFrom]
  | @char c cs ds hc _ ih =>
    rw [piecesFrom, controlLength?_of_inert hc]
    simp [ih]
  | @code n cs ds h ih =>
    have hcode := h.controlLength?_code n
    have hlength : (codeText n).toList.length = (Nat.toDigits 10 n).length + 3 := by
      simp [codeText_eq]
    rw [codeText_eq, List.cons_append] at hcode ⊢
    rw [piecesFrom, hcode]
    simp only [List.flatten_cons]
    rw [← codeText_eq, hlength, piecesFrom_of_le (by simp), ← List.append_nil piece.reverse]
    simp [ih]

/-- Pieces without escape characters arrive one after the other, behind any number of layers. -/
theorem all_deliver_of_plain {pieces : List (List Char)} (h : ∀ piece ∈ pieces, esc ∉ piece)
    (layers : Nat) : Delivery.all (pieces.map (deliver layers)) = ⟨pieces.flatten, none⟩ := by
  induction pieces with
  | nil => rfl
  | cons piece pieces ih =>
    rw [List.forall_mem_cons] at h
    rw [List.map_cons, Delivery.all, List.foldr_cons, ← Delivery.all, ih h.2,
      deliver_of_plain h.1]
    rfl

/-- **Deleting layers**, one or more, take the style codes out of a coloured text, and nothing
else. -/
theorem deliver_succ (h : Tinted cs ds) (layers : Nat) : deliver (layers + 1) cs = ⟨ds, none⟩ := by
  have hpieces : (plainPieces cs).flatten = ds := by
    rw [plainPieces, List.flatten_filter_not_isEmpty, h.flatten_piecesFrom]
    rfl
  have hplain : ∀ piece ∈ plainPieces cs, esc ∉ piece := by
    intro piece hpiece hesc
    have hmem : esc ∈ ds := hpieces ▸ List.mem_flatten.mpr ⟨piece, hpiece, hesc⟩
    exact (h.inert esc hmem).1 rfl
  rw [deliver, deletePieces, deleteCommands, h.coded.commandsFrom_eq_nil 0]
  simp only [deleteFrom]
  rw [all_deliver_of_plain hplain, hpieces]

/-- A single deleting layer. -/
theorem deliver_one (h : Tinted cs ds) : deliver 1 cs = ⟨ds, none⟩ := h.deliver_succ 0

end Tinted

/-! ## Coloured text -/

/-- Nothing, or a style code. -/
def IsStyle (s : String) : Prop := s = "" ∨ ∃ n, s = codeText n

theorem IsStyle.tinted {s : String} (h : IsStyle s) : Tinted s.toList [] := by
  rcases h with rfl | ⟨n, rfl⟩
  · exact .nil
  · simpa using Tinted.code n .nil

theorem isStyle_codeText (n : Nat) : IsStyle (codeText n) := .inr ⟨n, rfl⟩

/-- A text between style codes. -/
theorem tinted_styled {style text : String} (hstyle : IsStyle style) (htext : TextOver Inert text)
    (isBright : Bool) : Tinted (styled isBright style text).toList text.toList := by
  have hplain : Tinted text.toList text.toList := .of_inert htext
  have hbright : Tinted (if isBright then bright else "").toList [] := by
    cases isBright with
    | false => exact .nil
    | true => exact (isStyle_codeText 1).tinted
  have hcoloured := ((hbright.append hstyle.tinted).append hplain).append
    (isStyle_codeText 0).tinted
  simpa [styled, reset] using hcoloured

variable (color : ColorState) {color' : ColorState} {text : String}

/-- **Coloured text** is the text, with style codes. -/
theorem tinted_colored (hoff : color'.isOn = false) {style : String} (hstyle : IsStyle style)
    (htext : TextOver Inert text) (isBright : Bool) :
    Tinted (color.colored isBright style text).toList
      (color'.colored isBright style text).toList := by
  rw [ColorState.colored_off hoff, ColorState.colored]
  split
  · exact tinted_styled hstyle htext isBright
  · exact .of_inert htext

/-- One of two answers, with style codes. -/
theorem tinted_verdict (hoff : color'.isOn = false) {yes no : String} (hyes : TextOver Inert yes)
    (hno : TextOver Inert no) (matched : Bool) :
    Tinted (color.verdict matched yes no).toList (color'.verdict matched yes no).toList := by
  cases matched with
  | true => exact tinted_colored color hoff (isStyle_codeText 33) hyes true
  | false => exact tinted_colored color hoff (isStyle_codeText 2) hno false

end PropertyFilter.Terminal
