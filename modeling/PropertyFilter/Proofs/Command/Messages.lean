import PropertyFilter.Proofs.Command.Overrides
import PropertyFilter.Proofs.File.PathText
import PropertyFilter.Proofs.Format.Loading
import PropertyFilter.Proofs.Value.Data
import PropertyFilter.Proofs.Value.Display

/-!
# Texts of notices and of reports

What a run notices and reports on its way from the file to the filters is written with inert
characters only, if its arguments and the configuration are.

## Main results

* `LoadReported.inert_message`: reports of loading
* `inert_of_mem_notices_fileEntries`, `MergedConfiguration.inert_of_mem_notices`: notices of loading
  and of building filters
-/

namespace PropertyFilter

open Terminal (Inert)

/-! ## Reports of loading -/

variable {files : FileTree} {path : String} {file : Option String}

theorem inert_text_of_expandHome (hpath : TextOver Inert path) (hhome : files.HomesOver Inert)
    {p : Path} (h : (Path.ofText path).expandHome files.home? = .ok p) :
    p.Over Inert ∧ TextOver Inert p.text := by
  have hp := (Path.over_ofText hpath).expandHome hhome h
  exact ⟨hp, hp.text (by decide) (by decide)⟩

/-- **Reports of loading** are inert, if the path of the file is. -/
theorem LoadReported.inert_message {e : LoadError} (h : LoadReported files path e)
    (hpath : TextOver Inert path) (hhome : files.HomesOver Inert) : TextOver Inert e.message := by
  cases h with
  | @unknownFormat p expanded _ =>
    obtain ⟨hp, -⟩ := inert_text_of_expandHome hpath hhome expanded
    have hsuffix := Text.inert_lowercase (hp.suffix (by decide))
    refine (TextOver.append (TextOver.append (by decide) ?_) (by decide)).append (by decide)
    split
    · exact hp.name
    · exact hsuffix
  | @unreadable p _ f found _ =>
    obtain ⟨-, htext⟩ := inert_text_of_expandHome hpath hhome found.expanded
    exact ((TextOver.append (by decide) htext).append (by decide)).append f.inert_message
  | malformed found _ =>
    obtain ⟨-, htext⟩ := inert_text_of_expandHome hpath hhome found.expanded
    exact (TextOver.append (by decide) htext).append (by decide)
  | noTable found _ _ =>
    obtain ⟨-, htext⟩ := inert_text_of_expandHome hpath hhome found.expanded
    exact (TextOver.append (by decide) htext).append (by decide)

/-- Loading a file is noticed by its path. -/
theorem inert_of_mem_notices_loadConfiguration (hpath : TextOver Inert path)
    (hhome : files.HomesOver Inert) :
    ∀ n ∈ (loadConfiguration files path).notices, TextOver Inert n.message := by
  unfold loadConfiguration
  split
  · intro n hn
    contradiction
  · next p hexpanded =>
    split
    · obtain ⟨-, htext⟩ := inert_text_of_expandHome hpath hhome hexpanded
      exact List.forall_mem_singleton.mpr (TextOver.append (by decide) htext)
    · intro n hn
      contradiction

/-! ## Notices -/

namespace Noticed

variable {ε α β : Type} {x : Noticed ε α}

/-- Steps that follow one another notice what each of them does. -/
theorem mem_notices_of_bind {f : α → Noticed ε β} {n : Notice} (h : n ∈ (x >>= f).notices) :
    n ∈ x.notices ∨ ∃ a, n ∈ (f a).notices := by
  obtain ⟨notices, outcome⟩ := x
  cases outcome with
  | error e => exact .inl h
  | ok a =>
    rcases List.mem_append.mp h with h | h
    · exact .inl h
    · exact .inr ⟨a, h⟩

end Noticed

theorem inert_of_mem_notices_fileEntries (hfile : ∀ path ∈ file, TextOver Inert path)
    (hhome : files.HomesOver Inert) :
    ∀ n ∈ (fileEntries files file).notices, TextOver Inert n.message := by
  intro n hn
  unfold fileEntries at hn
  split at hn
  · contradiction
  · contradiction
  · next path _ =>
    rcases Noticed.mem_notices_of_bind hn with hn | ⟨v, hn⟩
    · exact inert_of_mem_notices_loadConfiguration (hfile path rfl) hhome n hn
    · contradiction

/-- What keeps entries from being loaded is a report with an inert text, or a fault. -/
theorem inert_message_of_outcome {e : LoadError} (hfile : ∀ path ∈ file, TextOver Inert path)
    (hhome : files.HomesOver Inert) (h : (fileEntries files file).outcome = .error e) :
    TextOver Inert e.message := by
  unfold fileEntries at h
  split at h
  · contradiction
  · contradiction
  · next path _ =>
    have hload : (loadConfiguration files path).outcome = .error e := by
      generalize loadConfiguration files path = loaded at h ⊢
      obtain ⟨notices, outcome⟩ := loaded
      cases outcome with
      | ok v => contradiction
      | error e' => exact congrArg Except.error (Except.error.inj h)
    by_cases hfault : ∃ f, e = .fault f
    · obtain ⟨f, rfl⟩ := hfault
      show TextOver Inert ""
      decide
    · have hreported := (outcome_eq_report_iff fun f hf => hfault ⟨f, hf⟩).mp hload
      exact hreported.inert_message (hfile path rfl) hhome

theorem inert_of_typeKey? {key : Value} {t : String} (h : typeKey? key = some t)
    (hkey : key.Over Inert) : TextOver Inert t := by
  cases key with
  | text s | type s serial =>
    rw [Value.Over] at hkey
    exact Option.some.inj h ▸ hkey
  | _ => contradiction

/-- A filter notices entries that it passes over, by their keys and by the types of values. -/
theorem NameFilter.inert_of_mem_notices {raw : Value} (hraw : raw.Over Inert)
    (defaults : List Value) :
    ∀ n ∈ (fromConfiguration raw defaults).notices, TextOver Inert n.message := by
  have hignored : ∀ n ∈ [Notice.ignoredFilter raw.typeName], TextOver Inert n.message :=
    List.forall_mem_singleton.mpr (TextOver.append (by decide) (Value.inert_typeName hraw))
  intro n hn
  cases raw with
  | text s | null => contradiction
  | mapping label view entries =>
    obtain ⟨e, he, hfate⟩ := mem_noticesOf_iff.mp hn
    rw [Value.Over, Value.entriesOver_iff] at hraw
    obtain ⟨hkey, hvalue⟩ := hraw e he
    rcases entryFate_eq_skipped_iff.mp hfate with ⟨-, rfl⟩ | ⟨t, ht, -, rfl⟩
    · exact TextOver.append (by decide) (Value.inert_shown hkey)
    · have ht := inert_of_typeKey? ht hkey
      exact ((TextOver.append (by decide) ht).append (by decide)).append
        (Value.inert_typeName hvalue)
  | _ => exact hignored n hn

/-- The notice that filters are complete holds numbers only. -/
theorem OutputFilters.inert_completion (excludes includes : NameFilter) :
    TextOver Inert (completion excludes includes).message := by
  show TextOver Inert ("Property filter configuration loaded: " ++ toString _ ++ " global / "
    ++ toString _ ++ " typed excludes, " ++ toString _ ++ " global / " ++ toString _
    ++ " typed includes")
  simp only [textOver_append_iff, inert_toString, and_true]
  decide

namespace MergedConfiguration

variable {m : MergedConfiguration}

/-- **Notices of building filters** are inert, if the configuration is. -/
theorem inert_of_mem_notices (hm : ∀ e ∈ m.entries, e.1.Over Inert ∧ e.2.Over Inert) :
    ∀ n ∈ m.filters.notices, TextOver Inert n.message := by
  have hside : ∀ s, (OutputFilters.sideValue m.entries s).Over Inert := by
    intro s
    unfold OutputFilters.sideValue
    cases hfind : Entries.findText? m.entries s.key with
    | none => trivial
    | some value =>
      obtain ⟨e, he, -, rfl⟩ := Entries.mem_of_find?_eq_some hfind
      exact (hm e he).2
  intro n hn
  have hbuild : n ∈ (OutputFilters.buildEntries m.entries (m.extraValue .excludes)
      (m.extraValue .includes)).notices := hn
  -- one side after the other, and then the notice that both are complete
  rcases Noticed.mem_notices_of_bind hbuild with hn | ⟨excludes, hn⟩
  · exact NameFilter.inert_of_mem_notices (hside .excludes)
      (Side.excludes.builtIn ++ (m.extraNames .excludes).map .text) n hn
  rcases Noticed.mem_notices_of_bind hn with hn | ⟨includes, hn⟩
  · exact NameFilter.inert_of_mem_notices (hside .includes)
      (Side.includes.builtIn ++ (m.extraNames .includes).map .text) n hn
  rcases Noticed.mem_notices_of_bind hn with hn | ⟨_, hn⟩
  · obtain rfl := List.mem_singleton.mp hn
    exact OutputFilters.inert_completion excludes includes
  · contradiction

/-- A text that is put in for a side keeps a configuration inert. -/
theorem over_override (hm : ∀ e ∈ m.entries, e.1.Over Inert ∧ e.2.Over Inert) (s : Side)
    {names : Option String} (hnames : ∀ text ∈ names, TextOver Inert text) :
    ∀ e ∈ (m.override s names).entries, e.1.Over Inert ∧ e.2.Over Inert := by
  cases names with
  | none => exact hm
  | some text =>
    have htext : (Value.text text).Over Inert := by
      rw [Value.Over]
      exact hnames text rfl
    have hkey : (Value.text s.key).Over Inert := by
      rw [Value.Over]
      cases s <;> decide
    rw [override]
    split
    · exact hm
    · exact Entries.forall_mem_insert hkey htext hm

end MergedConfiguration

/-- Overrides keep a configuration inert. -/
theorem over_mergeOverrides {entries : List (Value × Value)} {excludes includes : Option String}
    (hentries : ∀ e ∈ entries, e.1.Over Inert ∧ e.2.Over Inert)
    (hexcludes : ∀ text ∈ excludes, TextOver Inert text)
    (hincludes : ∀ text ∈ includes, TextOver Inert text) :
    ∀ e ∈ (mergeOverrides entries excludes includes).entries,
      e.1.Over Inert ∧ e.2.Over Inert :=
  MergedConfiguration.over_override
    (MergedConfiguration.over_override hentries .excludes hexcludes) .includes hincludes

end PropertyFilter
