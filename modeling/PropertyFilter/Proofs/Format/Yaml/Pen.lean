import Mathlib
import PropertyFilter.Format.Yaml.ScalarStyle
import PropertyFilter.Proofs.Text.Characters

/-!
# What a pen writes

A pen writes printable characters and line breaks only. Whatever else is in a scalar is escaped: the
other styles are not taken for a scalar that holds such a character.

## Main definitions

* `Yaml.Clear c`: the character may be written as it is
* `Yaml.Pen.Clear`: only such characters have been written

## Main results

* `Yaml.Pen.Clear.doubleQuoted`: between double quotes every text is written clearly
* `Yaml.Scalar.clear_write`: so is every scalar
-/

namespace PropertyFilter.Yaml

/-- A character that may be written as it is. -/
abbrev Clear (c : Char) : Prop := needsEscape c = false

/-- A printable character of ASCII may be written as it is. -/
theorem clear_of_ascii {c : Char} (h : 0x20 ≤ c.toNat) (h' : c.toNat ≤ 0x7e) : Clear c := by
  simp [Clear, needsEscape, h, h']

theorem clear_singleton {c : Char} (h : Clear c) : ∀ d ∈ [c], Clear d :=
  List.forall_mem_singleton.mpr h

theorem clear_of_isDigit {c : Char} (h : c.isDigit = true) : Clear c := by
  simp only [Char.isDigit, Bool.and_eq_true, decide_eq_true_eq, UInt32.le_iff_toNat_le,
    ge_iff_le] at h
  have hlow : 48 ≤ c.toNat := h.1
  have hhigh : c.toNat ≤ 57 := h.2
  exact clear_of_ascii (by omega) (by omega)

theorem clear_of_mem_digitsText {n : Nat} {c : Char} (h : c ∈ Number.digitsText n) : Clear c :=
  clear_of_isDigit (Nat.isDigit_of_mem_toDigits (by decide) (by decide) h)

theorem clear_of_mem_hexDigits {width n : Nat} {c : Char} (h : c ∈ Text.hexDigits width n) :
    Clear c.toUpper := by
  have hdigit : ∀ m < 16, Clear (Text.hexDigit m).toUpper := by decide
  induction width generalizing n with
  | zero => simp [Text.hexDigits] at h
  | succ width ih =>
    rw [Text.hexDigits, List.mem_append, List.mem_singleton] at h
    rcases h with h | rfl
    · exact ih h
    · exact hdigit _ (Nat.mod_lt _ (by decide))

theorem clear_of_standsForItself {c : Char} (h : Pen.standsForItself c = true) : Clear c := by
  simp only [Pen.standsForItself, Bool.and_eq_true, Bool.or_eq_true, Bool.not_eq_true',
    Bool.or_eq_false_iff, beq_eq_false_iff_ne, decide_eq_true_eq] at h
  obtain ⟨⟨-, hmark⟩, hrange⟩ := h
  simp only [Clear, needsEscape, Bool.not_eq_false', Bool.or_eq_true, Bool.and_eq_true,
    decide_eq_true_eq, bne_iff_ne]
  tauto

/-- Whatever a text holds, its escapes are clear. -/
theorem clear_escape (c : Char) : ∀ d ∈ Pen.escape c, Clear d := by
  have hletter : ∀ l ∈ Pen.escapeLetter? c, Clear l := by
    unfold Pen.escapeLetter?
    split <;> rintro l ⟨⟩ <;> decide
  unfold Pen.escape
  split
  · next l hl =>
    simp only [List.forall_mem_cons, List.not_mem_nil, false_implies, implies_true, and_true]
    exact ⟨by decide, hletter l hl⟩
  · have hnumber : ∀ letter width, Clear letter →
        ∀ d ∈ '\\' :: letter :: (Text.hexDigits width c.toNat).map Char.toUpper, Clear d := by
      intro letter width hletter
      rw [List.forall_mem_cons, List.forall_mem_cons, List.forall_mem_map]
      exact ⟨by decide, hletter, fun e he => clear_of_mem_hexDigits he⟩
    simp only
    split
    · exact hnumber 'x' 2 (by decide)
    split
    · exact hnumber 'u' 4 (by decide)
    · exact hnumber 'U' 8 (by decide)

namespace Pen

variable {p : Pen} {cs : List Char} {indent : Nat} {mayBreak : Bool}

/-- Only clear characters have been written. -/
def Clear (p : Pen) : Prop := TextOver Yaml.Clear p.written

theorem clear_start : start.Clear := by simp [Clear, TextOver, start]

/-! ### Indicators and indentation -/

theorem Clear.put (hp : p.Clear) (hcs : ∀ c ∈ cs, Yaml.Clear c) : (p.put cs).Clear :=
  TextOver.append hp (textOver_ofList.mpr hcs)

theorem Clear.breakLine (hp : p.Clear) {c : Char} (hc : Yaml.Clear c) : (p.breakLine c).Clear := by
  intro d hd
  simp only [Pen.breakLine, String.toList_push, List.mem_append, List.mem_singleton] at hd
  rcases hd with hd | rfl
  · exact hp d hd
  · exact hc

theorem Clear.inText (hp : p.Clear) : p.inText.Clear := hp

theorem Clear.indicator (hp : p.Clear) (hcs : ∀ c ∈ cs, Yaml.Clear c) (apart blank indents : Bool) :
    (p.indicator cs apart blank indents).Clear := by
  refine hp.put ?_
  split
  · exact hcs
  · rw [List.forall_mem_cons]
    exact ⟨by decide, hcs⟩

theorem Clear.indentTo (hp : p.Clear) (indent : Nat) : (p.indentTo indent).Clear := by
  have hbreak : (p.breakLine '\n').Clear := hp.breakLine (by decide)
  have hblanks : ∀ n, ∀ c ∈ List.replicate n ' ', Yaml.Clear c := by
    intro n c hc
    obtain rfl := List.eq_of_mem_replicate hc
    decide
  unfold Pen.indentTo
  simp only
  split <;> split
  · exact hbreak.put (hblanks _)
  · exact hbreak
  · exact hp.put (hblanks _)
  · exact hp

/-! ### Runs -/

/-- Runs are made of the characters of the text. -/
theorem forall_mem_splitBy {P : Char → Prop} (r : Char → Char → Bool) (h : ∀ c ∈ cs, P c) :
    ∀ run ∈ cs.splitBy r, ∀ c ∈ run, P c := by
  intro run hrun c hc
  refine h c ?_
  rw [← List.flatten_splitBy r cs]
  exact List.mem_flatten.mpr ⟨run, hrun, hc⟩

theorem Clear.foldl_breakLine (hp : p.Clear) (hcs : ∀ c ∈ cs, Yaml.Clear c) :
    (cs.foldl (fun p b => p.breakLine b) p).Clear := by
  induction cs generalizing p with
  | nil => exact hp
  | cons c cs ih =>
    rw [List.forall_mem_cons] at hcs
    exact ih (hp.breakLine hcs.1) hcs.2

theorem Clear.plainRuns {rs : List (List Char)} (hp : p.Clear)
    (hrs : ∀ r ∈ rs, ∀ c ∈ r, Yaml.Clear c) : (p.plainRuns indent mayBreak rs).Clear := by
  induction rs generalizing p with
  | nil => exact hp
  | cons r rs ih =>
    rw [List.forall_mem_cons] at hrs
    rw [Pen.plainRuns]
    refine ih ?_ hrs.2
    split
    · exact (hp.indentTo indent).inText
    · exact hp.put hrs.1

theorem Clear.plain (hp : p.Clear) (hcs : ∀ c ∈ cs, Yaml.Clear c) :
    (p.plain indent mayBreak cs).Clear := by
  have hruns := forall_mem_splitBy (P := Yaml.Clear)
    (fun a b => (a == ' ') == (b == ' ') && isTextBreak a == isTextBreak b) hcs
  unfold Pen.plain
  split
  · exact hp
  · simp only
    split
    · exact hp.inText.plainRuns hruns
    · exact (hp.put (clear_singleton (by decide))).inText.plainRuns hruns

theorem Clear.quotedBreaks (hp : p.Clear) (hcs : ∀ c ∈ cs, Yaml.Clear c) :
    (p.quotedBreaks indent cs).Clear := by
  unfold Pen.quotedBreaks
  simp only
  split
  · exact ((hp.breakLine (by decide)).foldl_breakLine hcs).indentTo indent
  · exact (hp.foldl_breakLine hcs).indentTo indent

theorem Clear.singleQuotedRuns {rs : List (List Char)} {first : Bool} (hp : p.Clear)
    (hrs : ∀ r ∈ rs, ∀ c ∈ r, Yaml.Clear c) :
    (p.singleQuotedRuns indent mayBreak first rs).Clear := by
  induction rs generalizing p first with
  | nil => exact hp
  | cons r rs ih =>
    rw [List.forall_mem_cons] at hrs
    rw [Pen.singleQuotedRuns]
    refine ih ?_ hrs.2
    split
    · split
      · exact hp.indentTo indent
      · exact hp.put hrs.1
    · split
      · exact hp.quotedBreaks hrs.1
      · refine hp.put fun c hc => ?_
        obtain ⟨d, hd, hc⟩ := List.mem_flatMap.mp hc
        split at hc
        · have hquote : Yaml.Clear '\'' := by decide
          have hc : c = '\'' := by simpa using hc
          exact hc ▸ hquote
        · obtain rfl := List.mem_singleton.mp hc
          exact hrs.1 c hd

theorem Clear.singleQuoted (hp : p.Clear) (hcs : ∀ c ∈ cs, Yaml.Clear c) :
    (p.singleQuoted indent mayBreak cs).Clear :=
  Clear.indicator (Clear.singleQuotedRuns (hp.indicator (clear_singleton (by decide)) _ _ _)
    (forall_mem_splitBy _ hcs)) (clear_singleton (by decide)) _ _ _

/-! ### Double quotes -/

theorem Clear.foldQuoted (hp : p.Clear) (next : Option Char) :
    (p.foldQuoted indent next).Clear := by
  have hfold : (((p.put ['\\']).indentTo indent).inText).Clear :=
    ((hp.put (clear_singleton (by decide))).indentTo indent).inText
  unfold Pen.foldQuoted
  simp only
  split
  · exact hfold.put (clear_singleton (by decide))
  · exact hfold

theorem Clear.doubleQuotedChars {first afterEscape : Bool} (hp : p.Clear) :
    (p.doubleQuotedChars indent mayBreak first afterEscape cs).Clear := by
  induction cs generalizing p first afterEscape with
  | nil => exact hp
  | cons c cs ih =>
    rw [Pen.doubleQuotedChars]
    simp only
    split
    · next hc =>
      refine ih (Clear.put ?_ (clear_singleton (clear_of_standsForItself hc)))
      split
      · exact hp.foldQuoted _
      · exact hp
    · refine ih ?_
      split
      · exact (hp.put (clear_escape c)).foldQuoted _
      · exact hp.put (clear_escape c)

/-- **Between double quotes every text is written clearly.** -/
theorem Clear.doubleQuoted (hp : p.Clear) : (p.doubleQuoted indent mayBreak cs).Clear :=
  Clear.indicator (Clear.doubleQuotedChars (hp.indicator (clear_singleton (by decide)) _ _ _))
    (clear_singleton (by decide)) _ _ _

/-! ### Literals -/

theorem clear_literalHints (cs : List Char) : ∀ c ∈ '|' :: literalHints cs, Yaml.Clear c := by
  have hmarks : Yaml.Clear '|' ∧ Yaml.Clear '2' ∧ Yaml.Clear '-' ∧ Yaml.Clear '+' := by decide
  rw [List.forall_mem_cons]
  refine ⟨hmarks.1, fun c hc => ?_⟩
  unfold literalHints at hc
  split at hc
  · rcases List.mem_append.mp hc with hc | hc
    · split at hc
      · exact List.mem_singleton.mp hc ▸ hmarks.2.1
      · contradiction
    · split at hc
      · exact List.mem_singleton.mp hc ▸ hmarks.2.2.1
      · split at hc
        · exact List.mem_singleton.mp hc ▸ hmarks.2.2.2
        · contradiction
  · contradiction

theorem Clear.literalRuns {rs : List (List Char)} (hp : p.Clear)
    (hrs : ∀ r ∈ rs, ∀ c ∈ r, Yaml.Clear c) : (p.literalRuns indent rs).Clear := by
  induction rs generalizing p with
  | nil => exact hp
  | cons r rs ih =>
    rw [List.forall_mem_cons] at hrs
    rw [Pen.literalRuns]
    simp only
    split
    · have hbreaks := hp.foldl_breakLine hrs.1
      refine ih ?_ hrs.2
      split
      · exact hbreaks
      · exact hbreaks.indentTo indent
    · have hline : ({ p with written := p.written ++ String.ofList r } : Pen).Clear :=
        TextOver.append hp (textOver_ofList.mpr hrs.1)
      refine ih ?_ hrs.2
      split
      · exact hline.breakLine (by decide)
      · exact hline

theorem Clear.literal (hp : p.Clear) (hcs : ∀ c ∈ cs, Yaml.Clear c) :
    (p.literal indent cs).Clear := by
  have hheader : ((p.indicator ('|' :: literalHints cs) true false false).breakLine '\n').Clear :=
    (hp.indicator (clear_literalHints cs) _ _ _).breakLine (by decide)
  unfold Pen.literal
  simp only
  refine Clear.literalRuns ?_ (forall_mem_splitBy _ hcs)
  split
  · exact hheader
  · exact hheader.indentTo indent

end Pen

/-! ### Scalars -/

namespace Scalar

theorem clear_tagText (tag : Tag) : ∀ c ∈ (tagText tag).toList, Clear c := by
  cases tag <;> simp [tagText, Clear, needsEscape]

theorem clear_of_needsDoubleQuotes {cs : List Char} (h : needsDoubleQuotes cs = false) :
    ∀ c ∈ cs, Clear c := by
  intro c hc
  simp only [needsDoubleQuotes, Bool.or_eq_false_iff, List.any_eq_false] at h
  simpa using h.2 c hc

/-- A scalar that is not written between double quotes holds clear characters only. -/
theorem clear_of_style {s : Scalar} {simpleKey : Bool} (h : s.style simpleKey ≠ .doubleQuoted) :
    ∀ c ∈ s.text, Clear c := by
  by_cases hquotes : needsDoubleQuotes s.text = true
  · have hsingle : allowsSingleQuotes s.text = false := by simp [allowsSingleQuotes, hquotes]
    have hliteral : allowsLiteral s.text = false := by simp [allowsLiteral, hquotes]
    by_cases hempty : s.text = []
    · simp [hempty]
    · have hplain : allowsPlain s.text = false := by simp [allowsPlain, hquotes, hempty]
      exact absurd (by simp [style, hsingle, hliteral, hplain]) h
  · exact clear_of_needsDoubleQuotes (by simpa using hquotes)

/-- **Every scalar is written clearly.** -/
theorem clear_write (s : Scalar) (indent : Nat) (simpleKey : Bool) {p : Pen} (hp : p.Clear) :
    (s.write indent simpleKey p).Clear := by
  have htag : (if s.showsTag (s.style simpleKey) then
      p.indicator (tagText s.tag).toList true false false else p).Clear := by
    split
    · exact hp.indicator (clear_tagText s.tag) _ _ _
    · exact hp
  have hstyle : s.style simpleKey ≠ .doubleQuoted → ∀ c ∈ s.text, Clear c := clear_of_style
  unfold write
  simp only
  generalize s.style simpleKey = style at htag hstyle
  cases style with
  | plain => exact htag.plain (hstyle (by simp))
  | singleQuoted => exact htag.singleQuoted (hstyle (by simp))
  | doubleQuoted => exact htag.doubleQuoted
  | literal => exact htag.literal (hstyle (by simp))

end Scalar

end PropertyFilter.Yaml
