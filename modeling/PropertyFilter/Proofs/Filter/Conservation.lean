import PropertyFilter.Log.World
import PropertyFilter.Proofs.Filter.Leniency

/-!
# What becomes of the entries of a mapping

No entry is dropped without a trace. An entry that cannot be used is logged; an entry without names
leaves nothing to store; and the names of any other entry are what its type has, unless a later
entry has names for that type. Entries are of one of these three kinds, so their numbers add up.

## Main definitions

* `isOmitted`, `isVoid`, `isNamed`: the three kinds of entries
* `omissionRecord e`: the record about an entry that cannot be used
* `Notice.record n`: the record in which a notice is logged

## Main results

* `records_noticesOf`: one record for each entry that cannot be used, in order
* `exists_card_typesOf`: one row for each type that some entry has names for
* `fromConfiguration_conserves`: all of this for a filter and its mapping
-/

namespace PropertyFilter

/-! ## Three kinds of entries -/

section

variable (e : Value × Value)

/-- An entry cannot be used: its key stands for no type, or its value for no names. -/
def isOmitted : Bool := (typeKey? e.1).isNone || (propertyNames? e.2).isNone

/-- An entry can be used and has no names. -/
def isVoid : Bool := (typeKey? e.1).isSome && (propertyNames? e.2).any (·.isEmpty)

/-- An entry can be used and has names. -/
def isNamed : Bool := (typeKey? e.1).isSome && (propertyNames? e.2).any (!·.isEmpty)

/-- What is said of an entry that cannot be used: it shows the key, or it names the type and the
type of the value. -/
def omissionText : String :=
  match typeKey? e.1 with
  | none => "Skipping filter entry with unsupported key " ++ e.1.shown
  | some t =>
    "Skipping filter entry for " ++ t ++ " with unsupported value of type " ++ e.2.typeName

/-- The record about an entry that cannot be used. -/
def omissionRecord : Record :=
  .ofText debugLevel "propfilter.config.filter_set" (omissionText e)

end

/-- The record in which a notice is logged. -/
def Notice.record (n : Notice) : Record := .ofText debugLevel n.logger n.message

/-- Notices are logged one after the other, each in its record. -/
theorem World.foldl_notice (w : World) (notices : List Notice) :
    notices.foldl World.notice w = (notices.map Notice.record).foldl World.log w := by
  rw [List.foldl_map]
  rfl

/-- **Every entry is of one kind**: the numbers of the three kinds add up. -/
theorem length_eq_kinds (entries : List (Value × Value)) :
    entries.length = (entries.filter isOmitted).length + (entries.filter isVoid).length
      + (entries.filter isNamed).length := by
  have hkind : ∀ e : Value × Value,
      (isOmitted e).toNat + (isVoid e).toNat + (isNamed e).toNat = 1 := by
    intro e
    unfold isOmitted isVoid isNamed
    cases typeKey? e.1 with
    | none => rfl
    | some t =>
      cases propertyNames? e.2 with
      | none => rfl
      | some names => cases names <;> rfl
  induction entries with
  | nil => rfl
  | cons e entries ih =>
    have h := hkind e
    simp only [List.filter_cons, List.length_cons]
    revert h
    cases isOmitted e <;> cases isVoid e <;> cases isNamed e <;> simp <;> omega

namespace NameFilter

variable {entries : List (Value × Value)} {t : String}

/-! ## Records -/

/-- A notice is given about an entry exactly if it cannot be used, and is logged as said of it. -/
theorem record_notice? (e : Value × Value) :
    (entryFate e.1 e.2).notice?.map Notice.record =
      if isOmitted e then some (omissionRecord e) else none := by
  unfold entryFate isOmitted omissionRecord omissionText
  cases typeKey? e.1 with
  | none => rfl
  | some t =>
    cases propertyNames? e.2 with
    | none => rfl
    | some names => cases names <;> rfl

/-- **One record for each entry that cannot be used**, in the order of the entries. -/
theorem records_noticesOf (entries : List (Value × Value)) :
    (noticesOf entries).map Notice.record = (entries.filter isOmitted).map omissionRecord := by
  induction entries with
  | nil => rfl
  | cons e entries ih =>
    have he := record_notice? e
    have hcons : noticesOf (e :: entries) =
        (entryFate e.1 e.2).notice?.toList ++ noticesOf entries := by
      simp only [noticesOf, entryFates, List.map_cons, List.filterMap_cons]
      cases (entryFate e.1 e.2).notice? <;> rfl
    rw [hcons, List.map_append, ih, List.filter_cons]
    cases hfate : (entryFate e.1 e.2).notice? with
    | none =>
      rw [hfate] at he
      have homitted : isOmitted e = false := by simpa using he.symm
      simp [homitted]
    | some n =>
      rw [hfate] at he
      cases homitted : isOmitted e with
      | false => simp [homitted] at he
      | true =>
        have hrecord : n.record = omissionRecord e := by simpa [homitted] using he
        simp [hrecord]

/-! ## Rows -/

/-- Entries have names for a type exactly if some names are configured for it. -/
theorem exists_hasNames_iff :
    (∃ e ∈ entries, HasNames t e) ↔ (Entries.findText? (typesOf entries) t).getD [] ≠ [] := by
  have hlast := configuredNames_typesOf entries t
  generalize (Entries.findText? (typesOf entries) t).getD [] = names at hlast
  cases hlast with
  | @last before after key value _ hkey hvalue hnames _ =>
    exact iff_of_true ⟨(key, value), by simp, hkey, _, hvalue, hnames⟩ hnames
  | none h =>
    refine iff_of_false ?_ (by simp)
    rintro ⟨e, he, hhas⟩
    exact h e he hhas

/-- **One row for each type** that some entry has names for. -/
theorem exists_card_typesOf (entries : List (Value × Value)) :
    ∃ types : Finset String, (∀ t, t ∈ types ↔ ∃ e ∈ entries, HasNames t e) ∧
      types.card = (typesOf entries).length := by
  obtain ⟨hnodup, htexts⟩ := typesOf_keys entries
  obtain ⟨types, htypes⟩ := exists_eq_map_text htexts
  rw [htypes] at hnodup
  refine ⟨types.toFinset, fun t => ?_, ?_⟩
  · have hkey : t ∈ types ↔ .text t ∈ (typesOf entries).map Prod.fst := by simp [htypes]
    rw [List.mem_toFinset, hkey, mem_keys_typesOf_iff, exists_hasNames_iff]
    simp
  · rw [List.toFinset_card_of_nodup (.of_map _ hnodup), ← List.length_map Prod.fst, htypes,
      List.length_map]

/-- The names of an entry are what its type has, unless a later entry has names for the type. -/
theorem findText?_or_later {before after : List (Value × Value)} {key value : Value}
    {names : List Value} (hkey : typeKey? key = some t) (hvalue : propertyNames? value = some names)
    (hne : names ≠ []) :
    (Entries.findText? (typesOf (before ++ (key, value) :: after)) t).getD [] = names ∨
      ∃ e ∈ after, HasNames t e := by
  by_cases hlater : ∃ e ∈ after, HasNames t e
  · exact .inr hlater
  · have hafter : ∀ e ∈ after, ¬ HasNames t e := fun e he hhas => hlater ⟨e, he, hhas⟩
    exact .inl (configuredNames_eq_typesOf (.last hkey hvalue hne hafter)).symm

/-! ## Mappings -/

/-- **No entry is dropped without a trace.** A mapping configures a filter, whatever it holds. While
it is read, one detail is logged for each entry that cannot be used, in the order of the entries,
and nothing else. An entry that can be used has no names, or its names are those of the filter for
its type, or a later entry has names for the same type. So the entries are as many as the records,
the entries without names and those with names together, and the filter has a row for each type that
some entry has names for. -/
theorem fromConfiguration_conserves (label : Option Label) (view : Bool)
    (entries : List (Value × Value)) {defaults : List Value}
    (hd : Value.allHashable defaults = true) :
    ∃ notices f, fromConfiguration (.mapping label view entries) defaults = ⟨notices, .ok f⟩ ∧
      notices.map Notice.record = (entries.filter isOmitted).map omissionRecord ∧
      (∀ w : World, notices.foldl World.notice w =
        ((entries.filter isOmitted).map omissionRecord).foldl World.log w) ∧
      (∀ before key value after t names, entries = before ++ (key, value) :: after →
        typeKey? key = some t → propertyNames? value = some names →
        names = [] ∨ f.namesFor (.text t) = names ∨ ∃ e ∈ after, HasNames t e) ∧
      entries.length = notices.length + (entries.filter isVoid).length
        + (entries.filter isNamed).length ∧
      ∃ types : Finset String, (∀ t, t ∈ types ↔ ∃ e ∈ entries, HasNames t e) ∧
        types.card = f.namesByType.length := by
  have houtcome := outcome_fromConfiguration (.mapping label view entries) hd
  have hrecords := records_noticesOf entries
  refine ⟨noticesOf entries, configured (.mapping label view entries) defaults, ?_, hrecords, ?_,
    ?_, ?_, exists_card_typesOf entries⟩
  · rw [← houtcome]
    rfl
  · intro w
    rw [World.foldl_notice, hrecords]
  · rintro before key value after t names rfl hkey hvalue
    by_cases hne : names = []
    · exact .inl hne
    · exact .inr (findText?_or_later hkey hvalue hne)
  · have hlength := congrArg List.length hrecords
    rw [List.length_map, List.length_map] at hlength
    rw [hlength]
    exact length_eq_kinds entries

/-- A mapping with entries of every kind: two are logged, one has no names, and of the two for one
type the later one counts. -/
theorem fromConfiguration_conserves_mixed :
    Value.allHashable [] = true ∧ ∃ notices f,
      fromConfiguration (.mapping none false
        [(.text "User", .text "a"), (.int 3, .text "b"), (.text "Role", .text " , "),
          (.type "User" 0, .list none [.text "c"]), (.text "User", .int 4)]) [] =
        ⟨notices, .ok f⟩ ∧
      notices.map Notice.record = ["Skipping filter entry with unsupported key 3",
        "Skipping filter entry for User with unsupported value of type int"].map
          (.ofText debugLevel "propfilter.config.filter_set") ∧
      f.namesFor (.text "User") = [.text "c"] := by
  have hd : Value.allHashable [] = true := by decide
  obtain ⟨notices, f, hf, hrecords, -, hfates, -, -⟩ := fromConfiguration_conserves none false
    [(.text "User", .text "a"), (.int 3, .text "b"), (.text "Role", .text " , "),
      (.type "User" 0, .list none [.text "c"]), (.text "User", .int 4)] hd
  refine ⟨hd, notices, f, hf, ?_, ?_⟩
  · exact hrecords.trans (by cbv)
  · have huser := hfates
      [(.text "User", .text "a"), (.int 3, .text "b"), (.text "Role", .text " , ")]
      (.type "User" 0) (.list none [.text "c"]) [(.text "User", .int 4)] "User" [.text "c"] rfl rfl
      rfl
    simpa [HasNames, propertyNames?] using huser

end NameFilter

end PropertyFilter
