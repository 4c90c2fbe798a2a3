import PropertyFilter.Proofs.Command.Reading
import PropertyFilter.Proofs.Command.Verdicts

/-!
# Properties that are named in several places

The option for properties takes all the names behind it, and may be given several times. Options
keep one value each, and a later value takes the place of an earlier one: what is asked for are the
names behind the last of these options only, and the earlier names leave no trace in a run.

## Main definitions

* `Part`, `Part.words`, `Part.IsProper`: command lines in parts, of which some name properties
* `groups ps`: the names behind the option for properties, for each time that it is given
* `withoutEarlier ps`: the parts without those that name properties, but for the last of these
* `readArguments x as`: what a command line makes of given options

## Main results

* `readArguments_group`, `readArguments_others`: how either kind of part is read
* `readArguments_withoutEarlier`: earlier names of properties leave no trace
* `run_of_groups`: what is asked for by a command line that names properties in several places
-/

namespace PropertyFilter.Command

variable {x y : Options}

/-! ## Command lines -/

/-- What a command line makes of options that are given, and the words that are left over. -/
def readArguments (x : Options) (arguments : List String) :
    Except ParseStop (Options × List String) :=
  match wordsOf arguments with
  | .error e => .error (.refused e)
  | .ok ws => readWords x [] ws

theorem parseOptions_of_readArguments {arguments : List String}
    (h : readArguments .none arguments = .ok (y, [])) : parseOptions arguments = .ok y := by
  unfold readArguments at h
  split at h
  · contradiction
  · next ws hws => exact parseOptions_of_wordsOf hws h

/-- Which properties are asked for does not matter to the other options. -/
theorem passesThrough_properties {o : OptionName} (ho : o ≠ .properties) (names : List String) :
    PassesThrough (fun x => { x with properties := names }) o := by
  intro x y arguments h
  cases o with
  | help => contradiction
  | properties => contradiction
  | validate | showFilters | verbose | noColor =>
    obtain rfl := Except.ok.inj h
    rfl
  | config | excludes | includes | typeName | logFile =>
    obtain ⟨a, rest, rfl, rfl⟩ := exists_of_apply_one h
    rfl

theorem wordsOf_append {before : List String} {ws : List Word} (h : wordsOf before = .ok ws)
    (hseparator : .separator ∉ ws) (after : List String) :
    wordsOf (before ++ after) = (ws ++ ·) <$> wordsOf after := by
  induction before generalizing ws with
  | nil =>
    obtain rfl := Except.ok.inj h
    cases hafter : wordsOf after <;> simp [hafter]
  | cons a before ih =>
    rw [wordsOf] at h
    rw [List.cons_append, wordsOf]
    split at h
    · obtain rfl := Except.ok.inj h
      simp at hseparator
    · next hne =>
      obtain ⟨w, hw, h⟩ := exists_of_bind_ok h
      obtain ⟨ws, hws, h⟩ := exists_of_bind_ok h
      obtain rfl := Except.ok.inj h
      rw [List.mem_cons, not_or] at hseparator
      rw [if_neg hne, hw, ih hws hseparator.2]
      cases wordsOf after <;> rfl

theorem wordsOf_names {names : List String} (h : ∀ n ∈ names, n.toList.head? ≠ some '-') :
    wordsOf names = .ok (names.map .argument) := by
  induction names with
  | nil => rfl
  | cons n names ih =>
    rw [List.forall_mem_cons] at h
    have hne : n ≠ "--" := by
      rintro rfl
      exact h.1 rfl
    rw [wordsOf, if_neg hne, ofArgument_of_head h.1, ih h.2]
    rfl

/-! ### Parts -/

/-- A part of a command line. -/
inductive Part where
  /-- The option for properties, as it is spelled, and the names behind it. -/
  | group (spelling : String) (names : List String)
  /-- Other options with their arguments. -/
  | others (words : List String)

/-- The words of a part. -/
def Part.words : Part → List String
  | group spelling names => spelling :: names
  | others words => words

/-- Behind the option for properties there are names, which do not begin with a hyphen; and other
options are acceptable in themselves and name no properties. -/
def Part.IsProper : Part → Prop
  | group spelling names => spelling ∈ OptionName.properties.spellings ∧ names ≠ [] ∧
      ∀ n ∈ names, n.toList.head? ≠ some '-'
  | others words => (∃ y, parseOptions words = .ok y) ∧
      ∀ ws, wordsOf words = .ok ws → ∀ w ∈ ws, w.last? ≠ some .properties

/-- The command line of some parts. -/
def commandLine (ps : List Part) : List String := ps.flatMap Part.words

/-- The names behind the option for properties, for each time that it is given. -/
def groups : List Part → List (List String)
  | [] => []
  | .group _ names :: ps => names :: groups ps
  | .others _ :: ps => groups ps

/-- The parts without those that name properties, but for the last of these. -/
def withoutEarlier : List Part → List Part
  | [] => []
  | .group spelling names :: ps =>
    if groups ps = [] then .group spelling names :: ps else withoutEarlier ps
  | .others words :: ps => .others words :: withoutEarlier ps

/-- Of the groups, the last one is kept. -/
theorem groups_withoutEarlier (ps : List Part) :
    groups (withoutEarlier ps) = (groups ps).getLast?.toList := by
  fun_induction withoutEarlier ps with
  | case1 => rfl
  | case2 spelling names ps hps => simp [groups, hps]
  | case3 spelling names ps hps ih =>
    rw [ih, groups, List.getLast?_cons, List.getLast?_eq_some_getLast hps]
    rfl
  | case4 words ps ih => exact ih

theorem ofArgument_spelling {spelling : String}
    (h : spelling ∈ OptionName.properties.spellings) :
    spelling ≠ "--" ∧
      ∃ short, Word.ofArgument spelling = .ok (.option .properties short .none) := by
  simp only [OptionName.spellings, List.mem_cons, List.not_mem_nil, or_false] at h
  rcases h with rfl | rfl
  · exact ⟨by decide, true, by cbv⟩
  · exact ⟨by decide, false, by cbv⟩

section

variable {ps : List Part} {names : List String}

/-- A part begins with an option, so no argument stands at the beginning of a command line. -/
theorem leadingArguments_commandLine (hps : ∀ p ∈ ps, p.IsProper) {ws : List Word}
    (h : wordsOf (commandLine ps) = .ok ws) : leadingArguments ws = [] := by
  induction ps generalizing ws with
  | nil =>
    obtain rfl := Except.ok.inj h
    rfl
  | cons p ps ih =>
    rw [List.forall_mem_cons] at hps
    cases p with
    | group spelling names =>
      obtain ⟨hne, short, hword⟩ := ofArgument_spelling hps.1.1
      rw [commandLine, List.flatMap_cons, Part.words, List.cons_append, wordsOf, if_neg hne] at h
      obtain ⟨w, hw, h⟩ := exists_of_bind_ok h
      obtain ⟨ws', -, h⟩ := exists_of_bind_ok h
      obtain rfl := Except.ok.inj h
      obtain rfl := Except.ok.inj (hword.symm.trans hw)
      rfl
    | others words =>
      obtain ⟨y, hy⟩ := hps.1.1
      obtain ⟨ws₁, hws₁, hread⟩ := exists_wordsOf hy
      obtain ⟨-, hleading, hseparator⟩ := left_eq_nil_of_readWords hread rfl
      rw [commandLine, List.flatMap_cons, Part.words, wordsOf_append hws₁ hseparator] at h
      obtain ⟨ws₂, hws₂, h⟩ := exists_of_bind_ok h
      obtain rfl := Except.ok.inj h
      cases ws₁ with
      | nil => exact ih hps.2 hws₂
      | cons w ws₁ =>
        cases w with
        | argument s => simp [leadingArguments] at hleading
        | _ => rfl

/-- **Names of properties** take the place of what was asked for before. -/
theorem readArguments_group {spelling : String} (h : (Part.group spelling names).IsProper)
    (hps : ∀ p ∈ ps, p.IsProper) (x : Options) :
    readArguments x (commandLine (.group spelling names :: ps)) =
      readArguments { x with properties := names } (commandLine ps) := by
  obtain ⟨hspelling, hnonempty, hnames⟩ := h
  obtain ⟨hne, short, hword⟩ := ofArgument_spelling hspelling
  have hwords : wordsOf (commandLine (.group spelling names :: ps)) =
      (fun ws => .option .properties short .none :: (names.map .argument ++ ws)) <$>
        wordsOf (commandLine ps) := by
    rw [commandLine, List.flatMap_cons, Part.words, List.cons_append, wordsOf, if_neg hne, hword,
      wordsOf_append (wordsOf_names hnames) (by simp), ← commandLine]
    cases wordsOf (commandLine ps) <;> rfl
  unfold readArguments
  rw [hwords]
  cases hws : wordsOf (commandLine ps) with
  | error e => rfl
  | ok ws =>
    have hleading : leadingArguments (names.map .argument ++ ws) = names := by
      rw [leadingArguments_map_append, leadingArguments_commandLine hps hws, List.append_nil]
    have htake : takeArguments .properties (names.map .argument ++ ws) = .ok names := by
      simp [takeArguments, OptionName.arity, hleading, hnonempty]
    have hexpand : expand .properties short .none (names.map .argument ++ ws) =
        .ok ⟨[], .properties, names, names.length⟩ := by
      unfold expand
      simp only [htake]
      rfl
    have hdrop : (names.map Word.argument ++ ws).drop names.length = ws :=
      List.drop_left' (by simp)
    show readWords x [] (.option .properties short .none :: (names.map .argument ++ ws)) = _
    rw [readWords, hexpand]
    simp [Options.applyFlags, Options.apply, hdrop, pure, Except.pure]

/-- Other options leave the properties as they are, and are read the same with others. -/
theorem readArguments_others {words : List String} (h : (Part.others words).IsProper)
    (x : Options) : ∃ y : Options, y.properties = x.properties ∧ ∀ ps,
      readArguments x (commandLine (.others words :: ps)) = readArguments y (commandLine ps) ∧
      ∀ names, readArguments { x with properties := names } (commandLine (.others words :: ps)) =
        readArguments { y with properties := names } (commandLine ps) := by
  obtain ⟨⟨z, hz⟩, hnone⟩ := h
  obtain ⟨ws, hws, hread⟩ := exists_wordsOf hz
  obtain ⟨-, -, hseparator⟩ := left_eq_nil_of_readWords hread rfl
  obtain ⟨y, hy⟩ := exists_readWords hread x
  have hnames : ∀ names, readWords { x with properties := names } [] ws =
      .ok ({ y with properties := names }, []) := fun names =>
    readWords_change hy (fun o ho => passesThrough_properties (by rintro rfl; contradiction) names)
      fun w hw o ho => passesThrough_properties (fun heq => hnone ws hws w hw (heq ▸ ho)) names
  have hrest : ∀ {x y : Options}, readWords x [] ws = .ok (y, []) → ∀ ps,
      readArguments x (commandLine (.others words :: ps)) = readArguments y (commandLine ps) := by
    intro x y hy ps
    unfold readArguments
    rw [commandLine, List.flatMap_cons, Part.words, wordsOf_append hws hseparator, ← commandLine]
    cases wordsOf (commandLine ps) with
    | error e => rfl
    | ok ws' => exact readWords_append hy (hnone ws hws) ws'
  refine ⟨y, ?_, fun ps => ⟨hrest hy ps, fun names => hrest (hnames names) ps⟩⟩
  have hsame := (hnames x.properties).symm.trans hy
  exact (congrArg (fun r => r.1.properties) (Except.ok.inj hsame)).symm

/-- **The last names count**: what is read behind a command line are the names of its last group. -/
theorem exists_readArguments (hps : ∀ p ∈ ps, p.IsProper) (x : Options) :
    ∃ y : Options, readArguments x (commandLine ps) = .ok (y, []) ∧
      y.properties = (groups ps).getLast?.getD x.properties := by
  induction ps generalizing x with
  | nil => exact ⟨x, by simp [readArguments, commandLine, wordsOf, readWords], rfl⟩
  | cons p ps ih =>
    rw [List.forall_mem_cons] at hps
    cases p with
    | group spelling names =>
      obtain ⟨y, hy, hproperties⟩ := ih hps.2 { x with properties := names }
      refine ⟨y, (readArguments_group hps.1 hps.2 x).trans hy, ?_⟩
      rw [hproperties, groups, List.getLast?_cons, Option.getD_some]
    | others words =>
      obtain ⟨x₁, hx₁, hread⟩ := readArguments_others hps.1 x
      obtain ⟨y, hy, hproperties⟩ := ih hps.2 x₁
      exact ⟨y, (hread ps).1.trans hy, by rw [hproperties, groups, hx₁]⟩

/-- Where properties are named, it does not matter which were named before. -/
theorem readArguments_properties (hps : ∀ p ∈ ps, p.IsProper) (hgroups : groups ps ≠ [])
    (x : Options) (names : List String) :
    readArguments { x with properties := names } (commandLine ps) =
      readArguments x (commandLine ps) := by
  induction ps generalizing x with
  | nil => exact absurd rfl hgroups
  | cons p ps ih =>
    rw [List.forall_mem_cons] at hps
    cases p with
    | group spelling names' =>
      rw [readArguments_group hps.1 hps.2, readArguments_group hps.1 hps.2]
    | others words =>
      obtain ⟨y, -, hread⟩ := readArguments_others hps.1 x
      rw [(hread ps).1, (hread ps).2, ih hps.2 hgroups y]

/-- **Earlier names leave no trace** in what is asked for. -/
theorem readArguments_withoutEarlier (hps : ∀ p ∈ ps, p.IsProper) (x : Options) :
    readArguments x (commandLine (withoutEarlier ps)) = readArguments x (commandLine ps) := by
  fun_induction withoutEarlier ps generalizing x with
  | case1 => rfl
  | case2 => rfl
  | case3 spelling names ps hgroups ih =>
    rw [List.forall_mem_cons] at hps
    rw [readArguments_group hps.1 hps.2, readArguments_properties hps.2 hgroups, ih hps.2]
  | case4 words ps ih =>
    rw [List.forall_mem_cons] at hps
    obtain ⟨y, -, hread⟩ := readArguments_others hps.1 x
    rw [(hread _).1, (hread _).1, ih hps.2 y]

theorem ne_nil_of_mem_groups (hps : ∀ p ∈ ps, p.IsProper) : ∀ g ∈ groups ps, g ≠ [] := by
  induction ps with
  | nil => simp [groups]
  | cons p ps ih =>
    rw [List.forall_mem_cons] at hps
    cases p with
    | group spelling names =>
      rw [groups, List.forall_mem_cons]
      exact ⟨hps.1.2.1, ih hps.2⟩
    | others words => exact ih hps.2

/-- The last group is all that is named only if there is no other. -/
theorem last_eq_flatten_iff {gs : List (List String)} (hne : ∀ g ∈ gs, g ≠ [])
    (hlast : gs.getLast? = some names) : names = gs.flatten ↔ gs.length = 1 := by
  obtain ⟨before, rfl⟩ := List.getLast?_eq_some_iff.mp hlast
  have hbefore : before.flatten = [] ↔ before = [] := by
    rw [List.flatten_eq_nil_iff]
    refine ⟨fun h => List.eq_nil_iff_forall_not_mem.mpr fun g hg => ?_, by rintro rfl; simp⟩
    exact hne g (by simp [hg]) (h g hg)
  simp [hbefore]

/-- **Properties that are named in several places.** A command line in which names of properties
and other options stand behind one another is accepted, and asks for the names of the last group
only: those are all that are named exactly if there is one group. Every run goes as if the earlier
groups were not there. Where it gives verdicts, with colours off, it prints one line for each name
of the last group, and none for any other. -/
theorem run_of_groups (hps : ∀ p ∈ ps, p.IsProper) (hgroups : groups ps ≠ []) :
    ∃ x, parseOptions (commandLine ps) = .ok x ∧ (groups ps).getLast? = some x.properties ∧
      (x.properties = (groups ps).flatten ↔ (groups ps).length = 1) ∧
      (∀ w, run w (commandLine ps) = run w (commandLine (withoutEarlier ps))) ∧
      ∀ (w : World) (entries : List (Value × Value)), x.validate = false → x.showFilters = false →
        (∀ a ∈ commandLine ps, Plain a) → (∀ path ∈ x.logFile, NoNull path) →
        NoNull w.files.base → (w.setUpLog (logSettings x)).1.color.isOn = false →
        (fileEntries (w.setUpLog (logSettings x)).1.files x.config).outcome = .ok entries →
        ∃ w' matched, run w (commandLine ps) = (w', .status 0) ∧
          (∀ s n, matched s n = true ↔
            SideMatches entries (overrideOf x.excludes x.includes s) s x.typeName n) ∧
          w'.stdout = w.stdout ++ verdictLines x.typeName matched x.properties := by
  obtain ⟨x, hread, hproperties⟩ := exists_readArguments hps .none
  have hnames : (groups ps).getLast? = some x.properties := by
    rw [hproperties, List.getLast?_eq_some_getLast hgroups, Option.getD_some]
  have hparse := parseOptions_of_readArguments hread
  have hearlier : parseOptions (commandLine (withoutEarlier ps)) = .ok x :=
    parseOptions_of_readArguments ((readArguments_withoutEarlier hps .none).trans hread)
  refine ⟨x, hparse, hnames, last_eq_flatten_iff (ne_nil_of_mem_groups hps) hnames, fun w => ?_,
    fun w entries hvalidate hshow hplain hnull hbase hcolor hfile => ?_⟩
  · rw [run, run, hparse, hearlier]
  · obtain ⟨w', matched, hrun, hmatched, hprinted⟩ := runOptions_of_plain hvalidate hshow
      (over_parseOptions hparse hplain) hnull hbase hcolor hfile
    refine ⟨w', matched, ?_, hmatched, hprinted⟩
    rw [run, hparse]
    exact hrun

/-- Of names in two places, the first are lost. -/
theorem run_of_groups_two :
    ∃ ps, (∀ p ∈ ps, p.IsProper) ∧ groups ps = [["a"], ["b", "c"]] ∧
      commandLine ps = ["-p", "a", "-t", "User", "--property", "b", "c"] ∧
      ∃ w', run colorless (commandLine ps) = (w', .status 0) ∧
        w'.stdout = ("User.b: not excluded, not included\n" ++
          "User.c: not excluded, not included\n").toList := by
  have hwords : wordsOf ["-t", "User"] = .ok [.option .typeName true .none, .argument "User"] := by
    cbv
  have hparse : parseOptions ["-t", "User"] =
      .ok { Options.none with typeName := some "User" } := by
    cbv
  have hps : ∀ p ∈ [Part.group "-p" ["a"], .others ["-t", "User"], .group "--property" ["b", "c"]],
      p.IsProper := by
    simp only [List.forall_mem_cons, List.not_mem_nil, false_implies, implies_true, and_true]
    refine ⟨⟨by decide, by simp, by decide⟩, ⟨⟨_, hparse⟩, fun ws hws => ?_⟩,
      ⟨by decide, by simp, by decide⟩⟩
    obtain rfl := Except.ok.inj (hwords.symm.trans hws)
    decide
  obtain ⟨x, hx, -, -, -, hrun⟩ := run_of_groups hps (by simp [groups])
  have hx' : parseOptions (commandLine [Part.group "-p" ["a"], .others ["-t", "User"],
      .group "--property" ["b", "c"]]) =
      .ok { Options.none with typeName := some "User", properties := ["b", "c"] } := by
    cbv
  obtain rfl := Except.ok.inj (hx.symm.trans hx')
  obtain ⟨w', matched, hw', hmatched, hprinted⟩ := hrun colorless [] rfl rfl (by decide)
    (by simp [Options.none]) (by decide) (color_setUpLog_colorless rfl rfl rfl) rfl
  refine ⟨_, hps, rfl, rfl, w', hw', ?_⟩
  have hno : ∀ s n, n ∉ ["class", "metaClass", "declaringClass"] → matched s n = false := by
    intro s n hn
    rw [Bool.eq_false_iff, ne_eq, hmatched]
    rintro (⟨-, hbuiltin⟩ | ⟨htext, -⟩ | ⟨-, hside, -⟩ | ⟨hside, -, -, -, -⟩)
    · exact hn hbuiltin
    · cases s <;> contradiction
    · contradiction
    · contradiction
  rw [hprinted]
  simp only [verdictLines, List.flatMap_cons, List.flatMap_nil, hno _ "b" (by decide),
    hno _ "c" (by decide)]
  rfl

end

end PropertyFilter.Command
