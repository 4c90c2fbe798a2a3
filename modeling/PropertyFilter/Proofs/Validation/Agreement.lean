import PropertyFilter.Proofs.Filter.Snapshot
import PropertyFilter.Proofs.Validation.Coverage

/-!
# Where reading and checking agree

Reading a configuration and checking it are two recognizers of one format. On configurations whose
mappings have pairwise different texts for keys, they recognize the same: a configuration has no
issues exactly if reading it leaves nothing out and every name that is stored for a type is a text.

## Main definitions

* `Value.IsTextKeyed`: data whose mappings have pairwise different texts for keys, at any depth
* `Notice.IsOmission`: a notice that something is left out
* `IsSide v`: a side as it has to be

## Main results

* `issues_eq_nil_iff`: the configurations without issues
* `NameFilter.isSide_iff`: what reading makes of a side as it has to be
* `issueMessages_eq_nil_iff`: reading and checking agree
-/

namespace PropertyFilter

open Document (keyText lastUnder?)
open OutputFilters (sideValue)

/-! ## Data with texts for keys -/

/-- Data whose mappings have pairwise different texts for keys, down to the last part: scalars, and
rows, sets and mappings of such data. -/
inductive Value.IsTextKeyed : Value → Prop where
  | null : IsTextKeyed .null
  | bool (b : Bool) : IsTextKeyed (.bool b)
  | int (n : Int) : IsTextKeyed (.int n)
  | float (x : Number.Binary64) : IsTextKeyed (.float x)
  | text (s : String) : IsTextKeyed (.text s)
  | octets (growable : Bool) (bs : List UInt8) : IsTextKeyed (.octets growable bs)
  | date (label : Option Label) (d : Time.Date) : IsTextKeyed (.date label d)
  | moment (label : Option Label) (m : Time.Moment) : IsTextKeyed (.moment label m)
  | clock (label : Option Label) (t : Time.ClockTime) : IsTextKeyed (.clock label t)
  | list (label : Option Label) {items : List Value} (h : ∀ v ∈ items, IsTextKeyed v) :
      IsTextKeyed (.list label items)
  | tuple (label : Option Label) {items : List Value} (h : ∀ v ∈ items, IsTextKeyed v) :
      IsTextKeyed (.tuple label items)
  | set (label : Option Label) (frozen : Bool) {items : List Value}
      (h : ∀ v ∈ items, IsTextKeyed v) : IsTextKeyed (.set label frozen items)
  | mapping (label : Option Label) (view : Bool) {entries : List (Value × Value)}
      (hkeys : AreTexts (entries.map Prod.fst)) (hnodup : (entries.map Prod.fst).Nodup)
      (h : ∀ e ∈ entries, IsTextKeyed e.2) : IsTextKeyed (.mapping label view entries)

section

variable {entries : List (Value × Value)}

/-- Among pairwise different texts for keys, the first value under a text is also the last. -/
theorem lastUnder?_eq_findText? (hkeys : AreTexts (entries.map Prod.fst))
    (hnodup : (entries.map Prod.fst).Nodup) (t : String) :
    lastUnder? entries t = Entries.findText? entries t := by
  induction entries with
  | nil => rfl
  | cons e entries ih =>
    obtain ⟨k, v⟩ := e
    rw [List.map_cons, AreTexts, List.forall_mem_cons] at hkeys
    rw [List.map_cons, List.nodup_cons] at hnodup
    obtain ⟨⟨s, rfl⟩, hkeys⟩ := hkeys
    rw [Document.lastUnder?_cons, Entries.findText?_cons, ih hkeys hnodup.2]
    by_cases hs : s = t
    · subst hs
      have hnone : Entries.findText? entries s = none := by
        refine Option.eq_none_iff_forall_ne_some.mpr fun w hw => hnodup.1 ?_
        have hmem := (Entries.mem_iff_findText? hnodup.2).mpr hw
        exact List.mem_map.mpr ⟨_, hmem, rfl⟩
      simp [hnone, keyText]
    · simp [keyText, hs]

/-- What a side is read from is the last value under its key, if there is one, else nothing. -/
theorem exists_lastUnder?_key_iff (hkeys : AreTexts (entries.map Prod.fst))
    (hnodup : (entries.map Prod.fst).Nodup) (s : Side) {P : Value → Prop} (hnull : ¬ P .null) :
    (∃ w, lastUnder? entries s.key = some w ∧ P w) ↔ P (sideValue entries s) := by
  rw [lastUnder?_eq_findText? hkeys hnodup, sideValue]
  cases Entries.findText? entries s.key with
  | none => simpa using hnull
  | some w => simp

/-- Among different texts for keys, the values under some text are those of the entries. -/
theorem exists_lastUnder?_iff (hkeys : AreTexts (entries.map Prod.fst))
    (hnodup : (entries.map Prod.fst).Nodup) {P : Value → Prop} :
    (∃ t v, lastUnder? entries t = some v ∧ P v) ↔ ∃ e ∈ entries, P e.2 := by
  simp only [lastUnder?_eq_findText? hkeys hnodup, ← Entries.mem_iff_findText? hnodup]
  constructor
  · rintro ⟨t, v, hmem, hv⟩
    exact ⟨_, hmem, hv⟩
  · rintro ⟨⟨k, v⟩, hmem, hv⟩
    obtain ⟨t, rfl⟩ : ∃ t, k = .text t := hkeys k (List.mem_map_of_mem hmem)
    exact ⟨t, v, hmem, hv⟩

end

/-! ## Configurations without issues -/

/-- A side as it has to be: nothing, a text, or a mapping to names as they have to be. -/
def IsSide (v : Value) : Prop :=
  ¬ IsIgnored v ∧ ∀ sub, v.entries? = some sub → ∀ e ∈ sub, AreNames e.2

section

variable {label : Option Label} {view : Bool} {entries : List (Value × Value)}

/-- A mapping has issues at a side, or at or below the names of a type, if it has any. -/
theorem issues_mapping_eq_nil_iff :
    issues (.mapping label view entries) = [] ↔
      ∀ s : Side, ¬ ReportedAt (.mapping label view entries) [s.key] ∧
        ∀ t, ¬ ReportedBelow (.mapping label view entries) [s.key, t] := by
  constructor
  · intro h s
    simp [ReportedAt, ReportedBelow, h]
  · intro h
    refine List.eq_nil_iff_forall_not_mem.mpr fun i hi => ?_
    have hoffends := mem_issues_iff.mp hi
    cases hoffends with
    | root hroot => exact hroot _ (by rw [Document.ofValue])
    | side s => exact (h s).1 ⟨_, hi, rfl⟩
    | @names s _ _ t => exact (h s).2 t ⟨_, hi, List.prefix_rfl⟩
    | @name s _ _ t => exact (h s).2 t ⟨_, hi, by simp⟩

theorem Value.IsTextKeyed.sideValue (h : (Value.mapping label view entries).IsTextKeyed)
    (s : Side) : (OutputFilters.sideValue entries s).IsTextKeyed := by
  cases h with
  | mapping _ _ _ hnodup hvalues =>
  rw [OutputFilters.sideValue]
  cases hfound : Entries.findText? entries s.key with
  | none => exact .null
  | some w => exact hvalues _ ((Entries.mem_iff_findText? hnodup).mpr hfound)

/-- The names of a type are reported for some type if a value on the side is not names as they have
to be. -/
theorem exists_reportedBelow_iff (h : (Value.mapping label view entries).IsTextKeyed) (s : Side) :
    (∃ t, ReportedBelow (.mapping label view entries) [s.key, t]) ↔
      ∃ sub, (sideValue entries s).entries? = some sub ∧ ∃ e ∈ sub, ¬ AreNames e.2 := by
  have hside := h.sideValue s
  cases h with
  | mapping _ _ hkeys hnodup _ =>
  have hfound := exists_lastUnder?_key_iff hkeys hnodup s
    (P := fun w => ∃ t sub v, w.entries? = some sub ∧ lastUnder? sub t = some v ∧ ¬ AreNames v)
    (by simp [Value.entries?])
  have hlast : (∃ t, ReportedBelow (.mapping label view entries) [s.key, t]) ↔
      ∃ w, lastUnder? entries s.key = some w ∧
        ∃ t sub v, w.entries? = some sub ∧ lastUnder? sub t = some v ∧ ¬ AreNames v := by
    simp only [reportedBelow_iff]
    grind
  rw [hlast, hfound]
  generalize sideValue entries s = w at hside
  cases hside with
  | mapping _ _ hkeys hnodup _ =>
    rw [Value.entries?_mapping]
    simpa using exists_lastUnder?_iff hkeys hnodup (P := fun v => ¬ AreNames v)
  | _ => simp [Value.entries?]

/-- **The configurations without issues** are those whose sides are as they have to be. -/
theorem issues_eq_nil_iff (h : (Value.mapping label view entries).IsTextKeyed) :
    issues (.mapping label view entries) = [] ↔ ∀ s, IsSide (sideValue entries s) := by
  rw [issues_mapping_eq_nil_iff]
  refine forall_congr' fun s => and_congr (not_congr ?_) ?_
  · rw [reportedAt_side_iff]
    cases h with
    | mapping _ _ hkeys hnodup _ =>
    exact exists_lastUnder?_key_iff hkeys hnodup s fun hnull => hnull.1 rfl
  · rw [← not_exists, exists_reportedBelow_iff h]
    simp only [not_exists, not_and, not_not]

end

/-! ## Reading a side -/

/-- Names as they have to be stand for names that are texts. -/
theorem areNames_iff {v : Value} (h : v.IsTextKeyed) :
    AreNames v ↔ ∃ names, propertyNames? v = some names ∧ AreTexts names := by
  cases h with
  | text s => simpa [AreNames] using NameFilter.areTexts_listedNames s
  | _ => simp [AreNames, Value.items?, propertyNames?, AreTexts]

namespace NameFilter

variable {sub : List (Value × Value)}

/-- Where keys are pairwise different, an entry has the names that are configured for its type. -/
theorem configuredNames_of_mem (hkeys : AreTexts (sub.map Prod.fst))
    (hnodup : (sub.map Prod.fst).Nodup) {t : String} {value : Value} {names : List Value}
    (hin : (.text t, value) ∈ sub) (hvalue : propertyNames? value = some names)
    (hnames : names ≠ []) : ConfiguredNames t sub names := by
  obtain ⟨before, after, rfl⟩ := List.append_of_mem hin
  refine .last rfl hvalue hnames fun e he hhas => ?_
  obtain ⟨u, hu⟩ : ∃ u, e.1 = .text u := hkeys e.1 (List.mem_map_of_mem (by simp [he]))
  rw [HasNames, hu, typeKey?_text, Option.some.injEq] at hhas
  have hmem : .text t ∈ after.map Prod.fst := by
    rw [← hhas.1, ← hu]
    exact List.mem_map_of_mem he
  rw [List.map_append, List.map_cons, List.nodup_append, List.nodup_cons] at hnodup
  exact hnodup.2.1.1 hmem

/-- **The entries of a mapping**: all values are names as they have to be exactly if none of them is
passed over and all stored names are texts. -/
theorem areNames_entries_iff (hkeys : AreTexts (sub.map Prod.fst))
    (hnodup : (sub.map Prod.fst).Nodup) (hvalues : ∀ e ∈ sub, e.2.IsTextKeyed) :
    (∀ e ∈ sub, AreNames e.2) ↔ noticesOf sub = [] ∧ ∀ row ∈ typesOf sub, AreTexts row.2 := by
  constructor
  · intro h
    refine ⟨List.eq_nil_iff_forall_not_mem.mpr fun n hn => ?_, fun row hrow => ?_⟩
    · obtain ⟨e, he, hskipped⟩ := mem_noticesOf_iff.mp hn
      obtain ⟨t, ht⟩ := hkeys e.1 (List.mem_map_of_mem he)
      rcases typeKey?_eq_none_or_of_skipped hskipped with hkey | hnames
      · simp [ht] at hkey
      · exact hnames (h e he)
    · obtain ⟨e, he, hvalue⟩ := exists_entry_of_mem_typesOf hrow
      obtain ⟨names, hnames, htexts⟩ := (areNames_iff (hvalues e he)).mp (h e he)
      obtain rfl := Option.some.inj (hvalue.symm.trans hnames)
      exact htexts
  · rintro ⟨hquiet, htexts⟩ ⟨key, value⟩ hmem
    obtain ⟨t, rfl⟩ : ∃ t, key = .text t := hkeys key (List.mem_map_of_mem hmem)
    rw [areNames_iff (hvalues _ hmem)]
    cases hnames : propertyNames? value with
    | none =>
      have hskipped : entryFate (.text t) value = .skipped (.skippedNames t value.typeName) :=
        entryFate_eq_skipped_iff.mpr (.inr ⟨t, rfl, hnames, rfl⟩)
      exact absurd (mem_noticesOf_iff.mpr ⟨_, hmem, hskipped⟩) (by simp [hquiet])
    | some names =>
      refine ⟨names, rfl, ?_⟩
      by_cases hne : names = []
      · simp [hne, AreTexts]
      · have hconfigured := configuredNames_of_mem hkeys hnodup hmem hnames hne
        exact htexts _ (mem_typesOf_iff.mpr ⟨t, rfl, hconfigured, hne⟩ : (.text t, names) ∈ _)

/-- **What reading makes of a side as it has to be**: there is nothing to notice, and all names that
are stored for types are texts. -/
theorem isSide_iff {v : Value} (h : v.IsTextKeyed) (defaults : List Value) :
    IsSide v ↔ (fromConfiguration v defaults).notices = [] ∧
      ∀ row ∈ namesByTypeOf (Shape.ofValue v), AreTexts row.2 := by
  cases h with
  | mapping label view hkeys hnodup hvalues =>
    simpa [IsSide, IsIgnored, fromConfiguration, shapeNotices, Shape.ofValue, namesByTypeOf] using
      areNames_entries_iff hkeys hnodup hvalues
  | _ =>
    simp [IsSide, IsIgnored, fromConfiguration, shapeNotices, Shape.ofValue, namesByTypeOf,
      Value.entries?]

end NameFilter

/-! ## Reading both sides -/

/-- A notice that something is left out, as its text says. -/
def Notice.IsOmission (n : Notice) : Prop :=
  "Ignoring".toList <+: n.message.toList ∨ "Skipping".toList <+: n.message.toList

theorem Notice.isOmission_iff {n : Notice} :
    n.IsOmission ↔ (∀ a b c d, n ≠ .configured a b c d) ∧ ∀ path, n ≠ .fileRead path := by
  have hother : ∀ {c : Char}, c ≠ 'I' → c ≠ 'S' → n.message.toList.head? = some c →
      ¬ n.IsOmission := by
    rintro c hI hS hc (⟨rest, h⟩ | ⟨rest, h⟩)
    · exact hI (by simpa [← h] using hc.symm)
    · exact hS (by simpa [← h] using hc.symm)
  cases n with
  | ignoredFilter typeName =>
    obtain ⟨rest, h⟩ : ∃ rest, (ignoredFilter typeName).message.toList =
        "Ignoring".toList ++ rest := by unfold message; simp
    exact iff_of_true (.inl ⟨rest, h.symm⟩) (by simp)
  | skippedKey shown =>
    obtain ⟨rest, h⟩ : ∃ rest, (skippedKey shown).message.toList =
        "Skipping".toList ++ rest := by unfold message; simp
    exact iff_of_true (.inr ⟨rest, h.symm⟩) (by simp)
  | skippedNames typeKey typeName =>
    obtain ⟨rest, h⟩ : ∃ rest, (skippedNames typeKey typeName).message.toList =
        "Skipping".toList ++ rest := by unfold message; simp
    exact iff_of_true (.inr ⟨rest, h.symm⟩) (by simp)
  | configured a b c d =>
    have hhead : (configured a b c d).message.toList.head? = some 'P' := by unfold message; simp
    exact iff_of_false (hother (by decide) (by decide) hhead) (by simp)
  | fileRead path =>
    have hhead : (fileRead path).message.toList.head? = some 'L' := by unfold message; simp
    exact iff_of_false (hother (by decide) (by decide) hhead) (by simp)

namespace NameFilter

/-- All notices about a filter are of something left out. -/
theorem isOmission_of_mem_notices {v : Value} {defaults : List Value} {n : Notice}
    (h : n ∈ (fromConfiguration v defaults).notices) : n.IsOmission := by
  rw [Notice.isOmission_iff]
  cases v with
  | text s => simp [fromConfiguration, Shape.ofValue, shapeNotices] at h
  | null => simp [fromConfiguration, Shape.ofValue, shapeNotices] at h
  | mapping label view sub =>
    obtain ⟨e, -, hskipped⟩ := mem_noticesOf_iff.mp h
    rcases entryFate_eq_skipped_iff.mp hskipped with ⟨-, rfl⟩ | ⟨t, -, -, rfl⟩ <;> simp
  | _ =>
    obtain rfl := List.mem_singleton.mp h
    simp

/-- So reading a filter leaves nothing out exactly if there is nothing to notice. -/
theorem forall_not_isOmission_iff {v : Value} {defaults : List Value} :
    (∀ n ∈ (fromConfiguration v defaults).notices, ¬ n.IsOmission) ↔
      (fromConfiguration v defaults).notices = [] := by
  rw [List.eq_nil_iff_forall_not_mem]
  constructor
  · intro h n hn
    exact h n hn (isOmission_of_mem_notices hn)
  · intro h n hn
    exact absurd hn (h n)

end NameFilter

namespace OutputFilters

/-- **Building a pair** without extra names: it succeeds, either filter holds the names that are
stored for types on its side, and what is noticed is what is noticed about either side, and that the
pair is complete. -/
theorem exists_build_noExtras (label : Option Label) (view : Bool)
    (entries : List (Value × Value)) :
    ∃ c : OutputFilters,
      (∀ s, (c.side s).namesByType =
        NameFilter.namesByTypeOf (Shape.ofValue (sideValue entries s))) ∧
      build (.mapping label view entries) noExtras noExtras =
        ⟨(NameFilter.fromConfiguration (sideValue entries .excludes)
            Side.excludes.builtIn).notices ++
          ((NameFilter.fromConfiguration (sideValue entries .includes)
              Side.includes.builtIn).notices ++
            [completion c.excludes c.includes]), .ok c⟩ := by
  have hbuild := build_of_mapping label view entries (fun _ => noExtras) (fun _ => [])
    (fun _ => rfl) fun _ => Value.allHashable_nil
  refine ⟨configured entries fun _ => [], fun s => ?_, hbuild⟩
  rw [side_configured]
  rfl

end OutputFilters

/-- **Reading and checking agree** on configurations whose mappings have texts for keys, at any
depth. Reading succeeds, and the configuration has no issues exactly if nothing is left out on
either side and every name that is stored for a type is a text. -/
theorem issueMessages_eq_nil_iff {label : Option Label} {view : Bool}
    {entries : List (Value × Value)} (h : (Value.mapping label view entries).IsTextKeyed) :
    ∃ c, (OutputFilters.build (.mapping label view entries) OutputFilters.noExtras
        OutputFilters.noExtras).outcome = .ok c ∧
      (issueMessages (.mapping label view entries) = [] ↔
        (∀ n ∈ (OutputFilters.build (.mapping label view entries) OutputFilters.noExtras
          OutputFilters.noExtras).notices, ¬ n.IsOmission) ∧
        ∀ s, ∀ row ∈ (c.side s).namesByType, ∀ name ∈ row.2, ∃ t, name = .text t) := by
  obtain ⟨c, htypes, hbuild⟩ := OutputFilters.exists_build_noExtras label view entries
  rw [hbuild]
  refine ⟨c, rfl, ?_⟩
  have hcompletion : ¬ (OutputFilters.completion c.excludes c.includes).IsOmission := fun h =>
    (Notice.isOmission_iff.mp h).1 _ _ _ _ rfl
  have hquiet : (∀ n ∈
      (NameFilter.fromConfiguration (sideValue entries .excludes) Side.excludes.builtIn).notices ++
        ((NameFilter.fromConfiguration (sideValue entries .includes)
            Side.includes.builtIn).notices ++
          [OutputFilters.completion c.excludes c.includes]), ¬ n.IsOmission) ↔
      ∀ s, (NameFilter.fromConfiguration (sideValue entries s) s.builtIn).notices = [] := by
    rw [List.forall_mem_append, List.forall_mem_append, List.forall_mem_singleton,
      NameFilter.forall_not_isOmission_iff, NameFilter.forall_not_isOmission_iff]
    constructor
    · rintro ⟨hexcludes, hincludes, -⟩ (_ | _)
      · exact hexcludes
      · exact hincludes
    · exact fun h => ⟨h .excludes, h .includes, hcompletion⟩
  -- it is enough to look at either side for itself
  rw [issueMessages, List.map_eq_nil_iff, issues_eq_nil_iff h, hquiet, ← forall_and]
  refine forall_congr' fun s => ?_
  rw [NameFilter.isSide_iff (h.sideValue s) s.builtIn, htypes]

/-- Octets among the names of a type leave nothing out: they are stored, and are an issue. -/
theorem issueMessages_eq_nil_iff_octets :
    (Value.mapping none false [(.text "excludes", .mapping none false
        [(.text "User", .tuple none [.text "a", .octets false [98]])])]).IsTextKeyed ∧
      issueMessages (.mapping none false [(.text "excludes", .mapping none false
        [(.text "User", .tuple none [.text "a", .octets false [98]])])]) ≠ [] := by
  have hkeyed : (Value.mapping none false [(.text "excludes", .mapping none false
      [(.text "User", .tuple none [.text "a", .octets false [98]])])]).IsTextKeyed := by
    refine .mapping _ _ (by simp [AreTexts]) (by simp) ?_
    rw [List.forall_mem_singleton]
    refine .mapping _ _ (by simp [AreTexts]) (by simp) ?_
    rw [List.forall_mem_singleton]
    refine .tuple _ ?_
    rw [List.forall_mem_cons, List.forall_mem_singleton]
    exact ⟨.text _, .octets _ _⟩
  refine ⟨hkeyed, fun hnone => ?_⟩
  obtain ⟨c, hc, hagree⟩ := issueMessages_eq_nil_iff hkeyed
  obtain ⟨c', htypes, hbuild⟩ := OutputFilters.exists_build_noExtras none false
    [(.text "excludes", .mapping none false
      [(.text "User", .tuple none [.text "a", .octets false [98]])])]
  rw [hbuild] at hc
  obtain rfl := Except.ok.inj hc
  have hrow : (c'.side .excludes).namesByType =
      [(.text "User", [.text "a", .octets false [98]])] := by
    rw [htypes]
    simp only [sideValue, Entries.findText?_cons, Side.key, Value.same_text]
    rfl
  have htexts := (hagree.mp hnone).2 .excludes
  simp [hrow] at htexts

end PropertyFilter
