import PropertyFilter.Proofs.Command.Reading
import PropertyFilter.Proofs.Text.Characters

/-!
# What options hold

Options hold texts that stand in the command line, whole or in part. So whatever is true of every
character of the command line is true of every character of the options. Turning colours off in
addition changes nothing else that is asked for.

## Main definitions

* `Word.Over P w`, `Options.Over P x`: every character of the texts in a word, or in options,
  satisfies `P`

## Main results

* `over_ofArgument`: a word is over the characters of its argument
* `over_readWords`: reading words step by step keeps to their characters
* `over_parseOptions`: options are over the characters of the command line
* `parseOptions_cons_noColor`: a command line stays acceptable when it turns colours off
-/

namespace PropertyFilter.Command

variable {P : Char → Prop}

/-- Every character of the texts in a word satisfies `P`. -/
def Word.Over (P : Char → Prop) : Word → Prop
  | .argument s | .unknown s => TextOver P s
  | .option _ _ attached => ∀ cs ∈ attached, ∀ c ∈ cs, P c
  | .separator => True

/-- Every character of the texts in options satisfies `P`. -/
structure Options.Over (P : Char → Prop) (x : Options) : Prop where
  config : ∀ s ∈ x.config, TextOver P s
  excludes : ∀ s ∈ x.excludes, TextOver P s
  includes : ∀ s ∈ x.includes, TextOver P s
  typeName : ∀ s ∈ x.typeName, TextOver P s
  properties : ∀ s ∈ x.properties, TextOver P s
  logFile : ∀ s ∈ x.logFile, TextOver P s

theorem Options.Over.none : Options.none.Over P := by
  constructor <;> simp [Options.none]

/-! ## Words -/

theorem mem_of_cutAtEquals? {cs start attached : List Char}
    (h : cutAtEquals? cs = some (start, attached)) {c : Char} (hc : c ∈ attached) : c ∈ cs := by
  unfold cutAtEquals? at h
  split at h
  · next e rest hrest =>
    obtain ⟨-, rfl⟩ := Prod.mk.inj (Option.some.inj h)
    have hmem : c ∈ cs.dropWhile (· != '=') := hrest ▸ List.mem_cons_of_mem e hc
    exact (List.dropWhile_sublist _).subset hmem
  · contradiction

theorem over_spelledOut? {cs : List Char} {w : Word} (h : spelledOut? cs = some w)
    (hcs : ∀ c ∈ cs, P c) : w.Over P := by
  unfold spelledOut? at h
  split at h
  · obtain rfl := Option.some.inj h
    simp [Word.Over]
  · obtain ⟨⟨start, attached⟩, hcut, h⟩ := Option.bind_eq_some_iff.mp h
    obtain ⟨o, -, h⟩ := Option.bind_eq_some_iff.mp h
    obtain rfl := Option.some.inj h
    simp only [Word.Over, Option.mem_some_iff, forall_eq']
    exact fun c hc => hcs c (mem_of_cutAtEquals? hcut hc)

theorem over_candidates {cs : List Char} (hcs : ∀ c ∈ cs, P c) {e : String × Word}
    (he : e ∈ candidates cs) : e.2.Over P := by
  unfold candidates at he
  split at he
  · obtain ⟨o, -, rfl⟩ := List.mem_map.mp he
    cases hcut : cutAtEquals? _ with
    | none => simp [Word.Over]
    | some ab =>
      simp only [Word.Over, Option.mem_some_iff, forall_eq']
      exact fun c hc => hcs c (mem_of_cutAtEquals? hcut hc)
  · next c rest _ =>
    split at he
    · obtain rfl := List.mem_singleton.mp he
      simp only [Word.Over, Option.mem_some_iff, forall_eq']
      exact fun d hd => hcs d (by simp [hd])
    · contradiction
  · contradiction

theorem ofArgument_of_head {s : String} (h : s.toList.head? ≠ some '-') :
    Word.ofArgument s = .ok (.argument s) := by
  rw [Word.ofArgument]
  exact if_pos h

/-- **A word is over the characters of its argument.** -/
theorem over_ofArgument {s : String} {w : Word} (h : Word.ofArgument s = .ok w)
    (hs : TextOver P s) : w.Over P := by
  unfold Word.ofArgument at h
  simp only at h
  split at h
  · obtain rfl := Except.ok.inj h
    exact hs
  split at h
  · next hspelled =>
    obtain rfl := Except.ok.inj h
    exact over_spelledOut? hspelled hs
  split at h
  · obtain rfl := Except.ok.inj h
    exact hs
  split at h
  · obtain rfl := Except.ok.inj h
    unfold unknownWord
    split <;> exact hs
  · next hcandidates =>
    obtain rfl := Except.ok.inj h
    exact over_candidates hs (hcandidates ▸ List.mem_singleton_self _)
  · contradiction

theorem over_wordsOf {arguments : List String} {ws : List Word} (h : wordsOf arguments = .ok ws)
    (hs : ∀ a ∈ arguments, TextOver P a) : ∀ w ∈ ws, w.Over P := by
  induction arguments generalizing ws with
  | nil =>
    obtain rfl := Except.ok.inj h
    simp
  | cons a rest ih =>
    rw [List.forall_mem_cons] at hs
    rw [wordsOf] at h
    split at h
    · obtain rfl := Except.ok.inj h
      intro w hw
      rcases List.mem_cons.mp hw with rfl | hw
      · trivial
      · obtain ⟨b, hb, rfl⟩ := List.mem_map.mp hw
        exact hs.2 b hb
    · obtain ⟨w, hword, h⟩ := exists_of_bind_ok h
      obtain ⟨ws', hrest, h⟩ := exists_of_bind_ok h
      obtain rfl := Except.ok.inj h
      rw [List.forall_mem_cons]
      exact ⟨over_ofArgument hword hs.1, ih hrest hs.2⟩

/-! ## Options -/

theorem mem_of_unbundle {o : OptionName} {short : Bool} {attached : List Char}
    {flags : List OptionName} {last : OptionName} {argument : List Char}
    (h : unbundle o short attached = .ok (flags, last, some argument)) {c : Char}
    (hc : c ∈ argument) : c ∈ attached := by
  induction attached generalizing o short flags with
  | nil =>
    unfold unbundle at h
    split at h
    · obtain ⟨-, -, rfl⟩ : [] = flags ∧ o = last ∧ [] = argument := by simpa using h
      exact hc
    · contradiction
  | cons d rest ih =>
    unfold unbundle at h
    split at h
    · obtain ⟨-, -, rfl⟩ : [] = flags ∧ o = last ∧ d :: rest = argument := by simpa using h
      exact hc
    · simp only at h
      split at h
      · split at h
        · simp at h
        · split at h
          · next hrest =>
            obtain ⟨-, rfl, rfl⟩ := by simpa using h
            exact List.mem_cons_of_mem d (ih hrest)
          · contradiction
      · contradiction

theorem over_leadingArguments {ws : List Word} (hws : ∀ w ∈ ws, w.Over P) :
    ∀ a ∈ leadingArguments ws, TextOver P a := by
  induction ws with
  | nil => simp [leadingArguments]
  | cons w ws ih =>
    rw [List.forall_mem_cons] at hws
    cases w with
    | argument s =>
      rw [leadingArguments, List.forall_mem_cons]
      exact ⟨hws.1, ih hws.2⟩
    | _ => simp [leadingArguments]

theorem over_takeArguments {o : OptionName} {ws : List Word} {found : List String}
    (h : takeArguments o ws = .ok found) (hws : ∀ w ∈ ws, w.Over P) :
    ∀ a ∈ found, TextOver P a := by
  have hleading := over_leadingArguments hws
  unfold takeArguments at h
  simp only at h
  split at h
  · obtain rfl := Except.ok.inj h
    simp
  · split at h
    · contradiction
    · obtain rfl := Except.ok.inj h
      exact fun a ha => hleading a (List.mem_of_mem_take ha)
  · split at h
    · contradiction
    · obtain rfl := Except.ok.inj h
      exact hleading

theorem over_attachedArguments {cs : List Char} (hcs : ∀ c ∈ cs, P c) :
    ∀ a ∈ attachedArguments cs, TextOver P a := by
  unfold attachedArguments
  split
  · simp
  · intro a ha
    obtain rfl := List.mem_singleton.mp ha
    simpa [TextOver] using hcs

theorem over_expand {o : OptionName} {short : Bool} {attached : Option (List Char)}
    {ws : List Word} {e : Expansion} (h : expand o short attached ws = .ok e)
    (hattached : (Word.option o short attached).Over P) (hws : ∀ w ∈ ws, w.Over P) :
    ∀ a ∈ e.arguments, TextOver P a := by
  have htaken : ∀ flags last, (do
      let found ← takeArguments last ws
      return ⟨flags, last, found, found.length⟩ : Except UsageError Expansion) = .ok e →
      ∀ a ∈ e.arguments, TextOver P a := by
    intro flags last h
    obtain ⟨found, hfound, h⟩ := exists_of_bind_ok h
    obtain rfl := Except.ok.inj h
    exact over_takeArguments hfound hws
  unfold expand at h
  simp only at h
  split at h
  · exact htaken _ _ h
  · next cs =>
    split at h
    · contradiction
    · exact htaken _ _ h
    · next hunbundle =>
      obtain rfl := Except.ok.inj h
      exact over_attachedArguments fun c hc => hattached cs rfl c (mem_of_unbundle hunbundle hc)

theorem Options.Over.apply {x y : Options} {o : OptionName} {arguments : List String}
    (h : x.apply o arguments = .ok y) (hx : x.Over P) (ha : ∀ a ∈ arguments, TextOver P a) :
    y.Over P := by
  cases o with
  | help => contradiction
  | config =>
    obtain ⟨a, rest, rfl, rfl⟩ := exists_of_apply_one h
    exact { hx with config := by simpa using ha a List.mem_cons_self }
  | excludes =>
    obtain ⟨a, rest, rfl, rfl⟩ := exists_of_apply_one h
    exact { hx with excludes := by simpa using ha a List.mem_cons_self }
  | includes =>
    obtain ⟨a, rest, rfl, rfl⟩ := exists_of_apply_one h
    exact { hx with includes := by simpa using ha a List.mem_cons_self }
  | typeName =>
    obtain ⟨a, rest, rfl, rfl⟩ := exists_of_apply_one h
    exact { hx with typeName := by simpa using ha a List.mem_cons_self }
  | logFile =>
    obtain ⟨a, rest, rfl, rfl⟩ := exists_of_apply_one h
    exact { hx with logFile := by simpa using ha a List.mem_cons_self }
  | properties =>
    obtain rfl := Except.ok.inj h
    exact { hx with properties := ha }
  | validate | showFilters | verbose | noColor =>
    obtain rfl := Except.ok.inj h
    exact { hx with }

theorem Options.Over.applyFlags {x y : Options} {flags : List OptionName}
    (h : x.applyFlags flags = .ok y) (hx : x.Over P) : y.Over P := by
  induction flags generalizing x with
  | nil =>
    obtain rfl := Except.ok.inj h
    exact hx
  | cons o flags ih =>
    rw [Options.applyFlags, List.foldlM_cons] at h
    obtain ⟨z, hstep, h⟩ := exists_of_bind_ok h
    exact ih h (hx.apply hstep (by simp))

/-- **Reading words keeps to their characters**, whatever was read before. -/
theorem over_readWords {x y : Options} {left rest : List String} {ws : List Word}
    (h : readWords x left ws = .ok (y, rest)) (hx : x.Over P) (hws : ∀ w ∈ ws, w.Over P) :
    y.Over P := by
  fun_induction readWords x left ws with
  | case1 x left =>
    obtain ⟨rfl, -⟩ := Prod.mk.inj (Except.ok.inj h)
    exact hx
  | case2 | case3 | case4 => contradiction
  | case5 x left o short attached ws flags last arguments taken hexpand z hflags z' happly ih =>
    rw [List.forall_mem_cons] at hws
    have hz := hx.applyFlags hflags
    have hz' := hz.apply happly (over_expand hexpand hws.1 hws.2)
    exact ih h hz' fun w hw => hws.2 w (List.mem_of_mem_drop hw)
  | case6 x left w ws _ ih => exact ih h hx (List.forall_mem_cons.mp hws).2

/-- **Options are over the characters of the command line.** -/
theorem over_parseOptions {arguments : List String} {x : Options}
    (h : parseOptions arguments = .ok x) (ha : ∀ a ∈ arguments, TextOver P a) : x.Over P := by
  obtain ⟨ws, hws, hread⟩ := exists_wordsOf h
  exact over_readWords hread .none (over_wordsOf hws ha)

/-! ## Colours turned off -/

variable {x : Options}

theorem passesThrough_noColor (o : OptionName) :
    PassesThrough (fun x => { x with noColor := true }) o := by
  intro x y arguments h
  cases o with
  | help => contradiction
  | validate | showFilters | properties | verbose | noColor =>
    obtain rfl := Except.ok.inj h
    rfl
  | config | excludes | includes | typeName | logFile =>
    obtain ⟨a, rest, rfl, rfl⟩ := exists_of_apply_one h
    rfl

/-- **A command line may turn colours off as well.** -/
theorem parseOptions_cons_noColor {arguments : List String} (h : parseOptions arguments = .ok x) :
    parseOptions ("--no-color" :: arguments) = .ok { x with noColor := true } := by
  obtain ⟨ws, hws, hread⟩ := exists_wordsOf h
  have hword : Word.ofArgument "--no-color" = .ok (.option .noColor false .none) := by cbv
  have hne : "--no-color" ≠ "--" := by decide
  have hwords : wordsOf ("--no-color" :: arguments) =
      .ok (.option .noColor false .none :: ws) := by
    rw [wordsOf, if_neg hne, hword, hws]
    rfl
  have hfirst : readWords .none [] (.option .noColor false .none :: ws) =
      readWords { Options.none with noColor := true } [] ws := by
    rw [readWords]
    rfl
  refine parseOptions_of_wordsOf hwords (hfirst.trans ?_)
  exact readWords_change hread (fun o _ => passesThrough_noColor o)
    fun _ _ o _ => passesThrough_noColor o

end PropertyFilter.Command
