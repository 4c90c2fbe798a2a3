import Mathlib
import PropertyFilter.Command.Options
import PropertyFilter.Proofs.Outcomes

/-!
# Reading the words of a command line

What can be read can be read up to its end with more words behind it, and with other options to
begin with; and a change of options may be made before the words are read, or after.

## Main definitions

* `Word.last? w`: the option that a word gives
* `PassesThrough change o`: a change of options may be made before an option or after it

## Main results

* `cases_of_expand`: the options that a word stands for
* `readWords_append`: words that do not name properties are read up to their end
* `left_eq_nil_of_readWords`: the words of a command line that is accepted
* `readWords_change`: a change passes through words
* `exists_readWords`: whether words can be read does not depend on what was asked for before
-/

namespace PropertyFilter.Command

variable {x y : Options} {o : OptionName}

/-! ## Options behind one another -/

/-- The option that a word gives; of several that are written together the last. -/
def Word.last? : Word → Option OptionName
  | .option o _ .none => some o
  | .option o short (some cs) =>
    match unbundle o short cs with
    | .ok (_, last, _) => some last
    | .error _ => .none
  | _ => .none

theorem arity_ne_some (ho : o ≠ .properties) : o.arity ≠ .some := by
  cases o <;> simp [OptionName.arity] at ho ⊢

theorem arity_flags_of_unbundle {short : Bool} {attached : List Char} {flags : List OptionName}
    {last : OptionName} {argument : Option (List Char)}
    (h : unbundle o short attached = .ok (flags, last, argument)) :
    ∀ f ∈ flags, f.arity = .none := by
  induction attached generalizing o short flags with
  | nil =>
    unfold unbundle at h
    split at h
    · obtain ⟨rfl, -, -⟩ : [] = flags ∧ o = last ∧ some [] = argument := by simpa using h
      simp
    · contradiction
  | cons d rest ih =>
    unfold unbundle at h
    split at h
    · obtain ⟨rfl, -, -⟩ : [] = flags ∧ o = last ∧ some (d :: rest) = argument := by simpa using h
      simp
    · next harity =>
      rw [ne_eq, not_not] at harity
      simp only at h
      split at h
      · split at h
        · obtain ⟨rfl, -⟩ : [o] = flags ∧ _ := by simpa using h
          simpa using harity
        · split at h
          · next hrest =>
            obtain ⟨rfl, rfl, rfl⟩ := by simpa using h
            rw [List.forall_mem_cons]
            exact ⟨harity, ih hrest⟩
          · contradiction
      · contradiction

/-! ### Arguments -/

theorem length_leadingArguments_le (ws : List Word) : (leadingArguments ws).length ≤ ws.length := by
  induction ws with
  | nil => simp [leadingArguments]
  | cons w ws ih => cases w <;> simp [leadingArguments, ih]

/-- The words that are taken for arguments are arguments. -/
theorem exists_take_eq_map {n : Nat} {ws : List Word} (h : n ≤ (leadingArguments ws).length) :
    ∃ names : List String, ws.take n = names.map .argument := by
  induction ws generalizing n with
  | nil => exact ⟨[], by simp⟩
  | cons w ws ih =>
    cases n with
    | zero => exact ⟨[], rfl⟩
    | succ n =>
      cases w with
      | argument s =>
        obtain ⟨names, hnames⟩ := ih (by simpa [leadingArguments] using h)
        exact ⟨s :: names, by simp [hnames]⟩
      | _ => simp [leadingArguments] at h

theorem leadingArguments_map_append (names : List String) (ws : List Word) :
    leadingArguments (names.map .argument ++ ws) = names ++ leadingArguments ws := by
  induction names with
  | nil => rfl
  | cons n names ih => simp [leadingArguments, ih]

theorem take_one_leadingArguments_append {ws : List Word} (h : leadingArguments ws ≠ [])
    (ws' : List Word) :
    (leadingArguments (ws ++ ws')).take 1 = (leadingArguments ws).take 1 := by
  cases ws with
  | nil => simp [leadingArguments] at h
  | cons w ws =>
    cases w with
    | argument s => simp [leadingArguments]
    | _ => simp [leadingArguments] at h

theorem takeArguments_append {ws : List Word} {found : List String}
    (h : takeArguments o ws = .ok found) (ho : o ≠ .properties) (ws' : List Word) :
    takeArguments o (ws ++ ws') = .ok found := by
  unfold takeArguments at h ⊢
  cases harity : o.arity with
  | none => simpa [harity] using h
  | some => exact absurd harity (arity_ne_some ho)
  | one =>
    simp only [harity] at h ⊢
    split at h
    · contradiction
    · next hne =>
      have hne : leadingArguments ws ≠ [] := by simpa using hne
      have htake := take_one_leadingArguments_append hne ws'
      have hne' : leadingArguments (ws ++ ws') ≠ [] := by
        intro hnil
        rw [hnil, List.take_nil, eq_comm, List.take_eq_nil_iff] at htake
        simp [hne] at htake
      simpa [hne', htake] using h

theorem length_le_of_takeArguments {ws : List Word} {found : List String}
    (h : takeArguments o ws = .ok found) : found.length ≤ (leadingArguments ws).length := by
  unfold takeArguments at h
  simp only at h
  split at h
  · obtain rfl := Except.ok.inj h
    simp
  · split at h
    · contradiction
    · obtain rfl := Except.ok.inj h
      simp
  · split at h
    · contradiction
    · obtain rfl := Except.ok.inj h
      exact le_rfl

section

variable {short : Bool} {attached : Option (List Char)} {ws : List Word} {e : Expansion}

/-- The options that a word stands for: the last is the one that the word gives, and the others take
no arguments. The last takes its arguments from the words behind it, unless they are a part of the
word. -/
theorem cases_of_expand (h : expand o short attached ws = .ok e) :
    (Word.option o short attached).last? = some e.last ∧ (∀ f ∈ e.flags, f.arity = .none) ∧
      e.taken ≤ (leadingArguments ws).length ∧
      ∀ ws', (∀ found, takeArguments e.last ws = .ok found →
        takeArguments e.last ws' = .ok found) → expand o short attached ws' = .ok e := by
  have htaken : ∀ {flags last}, (do
      let found ← takeArguments last ws
      return ⟨flags, last, found, found.length⟩ : Except UsageError Expansion) = .ok e →
      ∃ found, takeArguments last ws = .ok found ∧ ⟨flags, last, found, found.length⟩ = e := by
    intro flags last h
    obtain ⟨found, hfound, h⟩ := exists_of_bind_ok h
    exact ⟨found, hfound, Except.ok.inj h⟩
  unfold expand at h ⊢
  simp only at h ⊢
  split at h
  · obtain ⟨found, hfound, rfl⟩ := htaken h
    refine ⟨rfl, by simp, length_le_of_takeArguments hfound, fun ws' h' => ?_⟩
    rw [h' _ hfound]
    rfl
  · next cs =>
    split at h
    · contradiction
    · next flags last hunbundle =>
      obtain ⟨found, hfound, rfl⟩ := htaken h
      refine ⟨by simp [Word.last?, hunbundle], arity_flags_of_unbundle hunbundle,
        length_le_of_takeArguments hfound, fun ws' h' => ?_⟩
      rw [h' _ hfound]
      rfl
    · next flags last a hunbundle =>
      obtain rfl := Except.ok.inj h
      exact ⟨by simp [Word.last?, hunbundle], arity_flags_of_unbundle hunbundle, Nat.zero_le _,
        fun _ _ => rfl⟩

theorem expand_append (h : expand o short attached ws = .ok e)
    (hlast : (Word.option o short attached).last? ≠ some .properties) (ws' : List Word) :
    expand o short attached (ws ++ ws') = .ok e := by
  obtain ⟨hgiven, -, -, hexpand⟩ := cases_of_expand h
  have hne : e.last ≠ .properties := fun heq => hlast (heq ▸ hgiven)
  exact hexpand _ fun found hfound => takeArguments_append hfound hne ws'

end

/-! ## Reading -/

section

variable {ws : List Word} {left rest : List String}

/-- **Words that do not name properties are read up to their end**, whatever stands behind them. -/
theorem readWords_append (h : readWords x left ws = .ok (y, rest))
    (hws : ∀ w ∈ ws, w.last? ≠ some .properties) (ws' : List Word) :
    readWords x left (ws ++ ws') = readWords y rest ws' := by
  fun_induction readWords x left ws with
  | case1 x left =>
    obtain ⟨rfl, rfl⟩ := Prod.mk.inj (Except.ok.inj h)
    rfl
  | case2 | case3 | case4 => contradiction
  | case5 x left o short attached ws flags last arguments taken hexpand x₁ hflags x₂ hlast ih =>
    rw [List.forall_mem_cons] at hws
    have htaken : taken ≤ ws.length :=
      (cases_of_expand hexpand).2.2.1.trans (length_leadingArguments_le ws)
    rw [List.cons_append, readWords, expand_append hexpand hws.1]
    simp only [hflags, hlast, List.drop_append_of_le_length htaken]
    exact ih h fun w hw => hws.2 w (List.mem_of_mem_drop hw)
  | case6 x left w ws hoption ih =>
    rw [List.cons_append, readWords]
    · exact ih h (List.forall_mem_cons.mp hws).2
    · exact hoption

/-- If no word is left over, none was before, and all words are options and their arguments. -/
theorem left_eq_nil_of_readWords (h : readWords x left ws = .ok (y, rest)) (hrest : rest = []) :
    left = [] ∧ leadingArguments ws = [] ∧ .separator ∉ ws := by
  fun_induction readWords x left ws with
  | case1 x left =>
    obtain ⟨-, rfl⟩ := Prod.mk.inj (Except.ok.inj h)
    exact ⟨hrest, rfl, by simp⟩
  | case2 | case3 | case4 => contradiction
  | case5 x left o short attached ws flags last arguments taken hexpand x₁ hflags x₂ hlast ih =>
    obtain ⟨hleft, -, hdrop⟩ := ih h
    refine ⟨hleft, rfl, fun hmem => hdrop ?_⟩
    obtain ⟨names, hnames⟩ := exists_take_eq_map (cases_of_expand hexpand).2.2.1
    rw [← List.take_append_drop taken ws, hnames] at hmem
    simpa using hmem
  | case6 x left w ws _ ih =>
    obtain ⟨hleft, -⟩ := ih h
    simp at hleft

/-! ### Changes that pass through -/

/-- A change of options passes through an option: it may be made before or after. -/
def PassesThrough (change : Options → Options) (o : OptionName) : Prop :=
  ∀ {x y arguments}, x.apply o arguments = .ok y → (change x).apply o arguments = .ok (change y)

variable {change : Options → Options}

theorem applyFlags_change {flags : List OptionName} (hflags : ∀ f ∈ flags, PassesThrough change f)
    (h : x.applyFlags flags = .ok y) : (change x).applyFlags flags = .ok (change y) := by
  induction flags generalizing x with
  | nil =>
    obtain rfl := Except.ok.inj h
    rfl
  | cons o flags ih =>
    rw [List.forall_mem_cons] at hflags
    obtain ⟨x₁, hx₁, h⟩ := exists_of_bind_ok h
    rw [Options.applyFlags, List.foldlM_cons, hflags.1 hx₁]
    exact ih hflags.2 h

/-- **A change passes through words** if it passes through the options that they stand for. -/
theorem readWords_change (h : readWords x left ws = .ok (y, rest))
    (hflags : ∀ o, o.arity = .none → PassesThrough change o)
    (hws : ∀ w ∈ ws, ∀ o ∈ w.last?, PassesThrough change o) :
    readWords (change x) left ws = .ok (change y, rest) := by
  fun_induction readWords x left ws with
  | case1 x left =>
    obtain ⟨rfl, rfl⟩ := Prod.mk.inj (Except.ok.inj h)
    rw [readWords]
  | case2 | case3 | case4 => contradiction
  | case5 x left o short attached ws flags last arguments taken hexpand x₁ happly x₂ hlast ih =>
    rw [List.forall_mem_cons] at hws
    obtain ⟨hgiven, harity, -, -⟩ := cases_of_expand hexpand
    rw [readWords, hexpand]
    simp only [applyFlags_change (fun f hf => hflags f (harity f hf)) happly,
      hws.1 last hgiven hlast]
    exact ih h fun w hw => hws.2 w (List.mem_of_mem_drop hw)
  | case6 x left w ws hoption ih =>
    rw [readWords]
    · exact ih h (List.forall_mem_cons.mp hws).2
    · exact hoption

/-! ### Other options to begin with -/

/-- An option with one argument takes the first. -/
theorem exists_of_apply_one {f : String → Options} {y : Options} {arguments : List String}
    (h : (match arguments with
      | a :: _ => .ok (f a)
      | [] => .error (.fault .malformed) : Except ParseStop Options) = .ok y) :
    ∃ a rest, arguments = a :: rest ∧ f a = y := by
  cases arguments with
  | nil => contradiction
  | cons a rest => exact ⟨a, rest, rfl, Except.ok.inj h⟩

theorem exists_apply {arguments : List String} (h : x.apply o arguments = .ok y) (x' : Options) :
    ∃ y', x'.apply o arguments = .ok y' := by
  cases o with
  | help => contradiction
  | properties | validate | showFilters | verbose | noColor => exact ⟨_, rfl⟩
  | config | excludes | includes | typeName | logFile =>
    obtain ⟨a, rest, rfl, -⟩ := exists_of_apply_one h
    exact ⟨_, rfl⟩

theorem exists_applyFlags {flags : List OptionName} (h : x.applyFlags flags = .ok y)
    (x' : Options) : ∃ y', x'.applyFlags flags = .ok y' := by
  induction flags generalizing x x' with
  | nil => exact ⟨x', rfl⟩
  | cons o flags ih =>
    obtain ⟨x₁, hx₁, h⟩ := exists_of_bind_ok h
    obtain ⟨x₁', hx₁'⟩ := exists_apply hx₁ x'
    obtain ⟨y', hy'⟩ := ih h x₁'
    refine ⟨y', ?_⟩
    rw [Options.applyFlags, List.foldlM_cons, hx₁']
    exact hy'

/-- Whether words can be read does not depend on what was asked for before. -/
theorem exists_readWords (h : readWords x left ws = .ok (y, rest)) (x' : Options) :
    ∃ y', readWords x' left ws = .ok (y', rest) := by
  fun_induction readWords x left ws generalizing x' with
  | case1 x left =>
    obtain ⟨-, rfl⟩ := Prod.mk.inj (Except.ok.inj h)
    exact ⟨x', by rw [readWords]⟩
  | case2 | case3 | case4 => contradiction
  | case5 x left o short attached ws flags last arguments taken hexpand x₁ hflags x₂ hlast ih =>
    obtain ⟨x₁', hx₁'⟩ := exists_applyFlags hflags x'
    obtain ⟨x₂', hx₂'⟩ := exists_apply hlast x₁'
    obtain ⟨y', hy'⟩ := ih h x₂'
    refine ⟨y', ?_⟩
    rw [readWords, hexpand]
    simp only [hx₁', hx₂']
    exact hy'
  | case6 x left w ws hoption ih =>
    obtain ⟨y', hy'⟩ := ih h x'
    refine ⟨y', ?_⟩
    rw [readWords]
    · exact hy'
    · exact hoption

end

/-! ## Command lines -/

/-- If a command line is accepted, all its words are options and their arguments. -/
theorem exists_wordsOf {arguments : List String} (h : parseOptions arguments = .ok y) :
    ∃ ws, wordsOf arguments = .ok ws ∧ readWords .none [] ws = .ok (y, []) := by
  unfold parseOptions at h
  split at h
  · contradiction
  next ws hws =>
  split at h
  · contradiction
  · next hread =>
    obtain rfl := Except.ok.inj h
    exact ⟨ws, hws, hread⟩
  · contradiction

/-- If all words can be read, a command line is accepted. -/
theorem parseOptions_of_wordsOf {arguments : List String} {ws : List Word}
    (hws : wordsOf arguments = .ok ws) (hread : readWords .none [] ws = .ok (y, [])) :
    parseOptions arguments = .ok y := by
  simp only [parseOptions, hws, hread]

end PropertyFilter.Command
