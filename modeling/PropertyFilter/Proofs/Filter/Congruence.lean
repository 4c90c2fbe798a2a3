import PropertyFilter.Proofs.Filter.Leniency
import PropertyFilter.Proofs.Filter.RoundTrip
import PropertyFilter.Proofs.Value.Digest

/-!
# Sameness of filters as a congruence

Filters that are the same cannot be told apart by what they answer, nor by their digests, although a
digest counts the global names only. Sameness itself is agreement of look-ups: of every value in the
global names, and of every type in the rows. Rows are looked up whatever their order, but the names
in a row have an order, and each counts as often as it is there.

## Main definitions

* `Entries.AreKeyed`: entries under keys that are pairwise different
* `NameFilter.IsBuilt`, `OutputFilters.IsBuilt`: what is made from values as they come up
* `NameFilter.Agree`: filters that answer alike

## Main results

* `Entries.find?_eq_some_iff`: where keys are pairwise different, a look-up finds every entry
* `NameFilter.same_iff_lookups`: filters are the same if their look-ups agree
* `NameFilter.agree_of_same`: filters that are the same answer alike
* `OutputFilters.same_congruence`: all of this, and the same for pairs of filters
-/

namespace PropertyFilter

open Value (SameMembers)

/-! ## Look-ups -/

theorem isSome_eq_of_rel {α β : Type} {R : α → β → Prop} {o : Option α} {o' : Option β}
    (h : Option.Rel R o o') : o.isSome = o'.isSome := by
  cases h <;> rfl

namespace Entries

variable {α : Type} {es : Entries α} {key : Value} {a : α}

/-- Entries stand under proper keys that are pairwise different. -/
structure AreKeyed (es : Entries α) : Prop where
  pairwise : (es.map Prod.fst).Pairwise fun k k' => k.same k' = false
  isProper : ∀ k ∈ es.map Prod.fst, k.IsProper

/-- **Where keys are pairwise different**, a look-up finds every entry under its key. -/
theorem find?_eq_some_iff (hes : AreKeyed es) (hkey : key.IsProper) :
    find? es key = some a ↔ ∃ k, (k, a) ∈ es ∧ k.same key = true := by
  induction es with
  | nil => simp
  | cons e es ih =>
    obtain ⟨k, b⟩ := e
    obtain ⟨hhead, htail⟩ := List.pairwise_cons.mp hes.pairwise
    obtain ⟨-, hkeys⟩ := List.forall_mem_cons.mp hes.isProper
    rw [find?_cons]
    split
    · next hsame =>
      rw [Option.some.injEq]
      constructor
      · rintro rfl
        exact ⟨k, by simp, hsame⟩
      · rintro ⟨k', hmem, hsame'⟩
        rcases List.mem_cons.mp hmem with heq | hmem
        · exact (congrArg Prod.snd heq).symm
        · have hk' := List.mem_map_of_mem (f := Prod.fst) hmem
          have hne := hhead k' hk'
          rw [Value.same_trans hsame (Value.same_symm (hkeys k' hk') hkey hsame')] at hne
          contradiction
    · next hne =>
      rw [ih ⟨htail, hkeys⟩]
      refine exists_congr fun k' => and_congr_left fun hsame' => ?_
      rw [List.mem_cons, or_iff_right]
      rintro ⟨rfl, rfl⟩
      exact hne hsame'

theorem find?_of_mem (hes : AreKeyed es) {e : Value × α} (he : e ∈ es) :
    find? es e.1 = some e.2 :=
  (find?_eq_some_iff hes (hes.isProper e.1 (List.mem_map_of_mem he))).mpr
    ⟨e.1, he, Value.same_refl e.1⟩

/-- Entries are no more than others among which something is found whenever it is here. -/
theorem AreKeyed.length_le {es' : Entries α} (hes : AreKeyed es) (hes' : AreKeyed es')
    (h : ∀ key : Value, key.IsProper → (find? es key).isSome → (find? es' key).isSome) :
    es.length ≤ es'.length := by
  have hkeys : (es'.map Prod.fst).length = es'.length := List.length_map Prod.fst
  rw [← List.length_map Prod.fst, ← hkeys]
  refine length_le_of_partners (R := fun k k' => k.same k' = true)
    (S := fun k k' => k.same k' = true) (hes.pairwise.imp fun hne => by simp [hne]) ?_ ?_
  · intro k hk
    obtain ⟨e, he, rfl⟩ := List.mem_map.mp hk
    have hproper := hes.isProper e.1 hk
    have hsome := h e.1 hproper (by rw [find?_of_mem hes he]; rfl)
    obtain ⟨a, ha⟩ := Option.isSome_iff_exists.mp hsome
    obtain ⟨k', hmem, hsame⟩ := (find?_eq_some_iff hes' hproper).mp ha
    have hk' := List.mem_map_of_mem (f := Prod.fst) hmem
    exact ⟨k', hk', Value.same_symm (hes'.isProper k' hk') hproper hsame⟩
  · intro k _ k' hk' k'' hk'' hkk'' hk'k''
    exact Value.same_trans hkk''
      (Value.same_symm (hes.isProper k' hk') (hes'.isProper k'' hk'') hk'k'')

end Entries

/-! ## Members -/

namespace Value

variable {vs ws : List Value}

/-- Membership goes by what is there, up to sameness. -/
theorem memberOf_eq_of_sameMembers (hvs : ∀ v ∈ vs, v.IsProper) (hws : ∀ w ∈ ws, w.IsProper)
    (h : SameMembers vs ws) (v : Value) : v.memberOf vs = v.memberOf ws := by
  have hone : ∀ {vs ws : List Value}, (∀ v ∈ vs, v.IsProper) → (∀ w ∈ ws, w.IsProper) →
      (∀ v ∈ vs, ∃ w ∈ ws, same v w = true) → v.memberOf vs = true → v.memberOf ws = true := by
    intro vs ws hvs hws h hv
    obtain ⟨x, hx, hxv⟩ := memberOf_iff.mp hv
    obtain ⟨y, hy, hxy⟩ := h x hx
    exact memberOf_iff.mpr ⟨y, hy, same_trans (same_symm (hvs x hx) (hws y hy) hxy) hxv⟩
  exact Bool.eq_iff_iff.mpr ⟨hone hvs hws h.left, hone hws hvs h.right⟩

/-- Rows that answer alike when values are looked up in them have the same members. -/
theorem SameMembers.of_memberOf_eq (hvs : ∀ v ∈ vs, v.IsProper) (hws : ∀ w ∈ ws, w.IsProper)
    (h : ∀ v : Value, v.memberOf vs = v.memberOf ws) : SameMembers vs ws := by
  have hone : ∀ {vs ws : List Value}, (∀ v ∈ vs, v.IsProper) → (∀ w ∈ ws, w.IsProper) →
      (∀ v : Value, v.memberOf vs = v.memberOf ws) → ∀ v ∈ vs, ∃ w ∈ ws, same v w = true := by
    intro vs ws hvs hws h v hv
    have hmember : v.memberOf ws = true := h v ▸ memberOf_iff.mpr ⟨v, hv, same_refl v⟩
    obtain ⟨w, hw, hsame⟩ := memberOf_iff.mp hmember
    exact ⟨w, hw, same_symm (hws w hw) (hvs v hv) hsame⟩
  exact ⟨hone hvs hws h, hone hws hvs fun v => (h v).symm⟩

/-- Rows that are the same, member by member, have the same members. -/
theorem memberOf_eq_of_sameItems (hvs : ∀ v ∈ vs, v.IsProper) (hws : ∀ w ∈ ws, w.IsProper)
    (h : sameItems vs ws = true) (v : Value) : v.memberOf vs = v.memberOf ws := by
  have hlist : (list none vs).same (.list none ws) = true := by simpa only [same] using h
  exact memberOf_eq_of_sameMembers hvs hws (same_members (isProper_list_iff.mpr hvs)
    (isProper_list_iff.mpr hws) hlist rfl rfl) v

end Value

namespace NameFilter

variable {f g : NameFilter}

/-! ## Filters as they come up -/

/-- A filter as it comes up: its global names are a set, its rows a mapping, and all values that it
holds are proper. -/
structure IsProper (f : NameFilter) : Prop where
  distinct : f.globalNames.Pairwise fun a b => a.same b = false
  globalNames : ∀ v ∈ f.globalNames, v.IsProper
  keyed : Entries.AreKeyed f.namesByType
  rows : ∀ e ∈ f.namesByType, ∀ v ∈ e.2, v.IsProper

/-- A filter that is made from proper values: one that a configuration describes, or that has been
put together from parts. -/
inductive IsBuilt (f : NameFilter) : Prop
  | configured {raw : Value} {defaults : List Value} (hraw : raw.IsProper)
    (hdefaults : ∀ v ∈ defaults, v.IsProper)
    (h : (fromConfiguration raw defaults).outcome = .ok f) : IsBuilt f
  | ofParts {globalNames namesByType : Option Value} (hnames : ∀ v ∈ globalNames, v.IsProper)
    (htypes : ∀ v ∈ namesByType, v.IsProper)
    (h : ofParts globalNames namesByType = .ok f) : IsBuilt f

/-- The names that a proper value stands for are proper. -/
theorem isProper_of_mem_propertyNames {v : Value} (hv : v.IsProper) {names : List Value}
    (h : propertyNames? v = some names) : ∀ n ∈ names, n.IsProper := by
  cases v with
  | text | range =>
    obtain rfl := Option.some.inj h
    simp [listedNames]
  | list | tuple | set => exact hv.of_mem_members h
  | _ => contradiction

/-- Rows that entries configure stand under texts, each once. -/
theorem areKeyed_typesOf (entries : List (Value × Value)) :
    Entries.AreKeyed (typesOf entries) := by
  obtain ⟨hnodup, htexts⟩ := typesOf_keys entries
  constructor
  · refine (List.Pairwise.and_mem.mp hnodup).imp ?_
    rintro k k' ⟨hk, -, hne⟩
    obtain ⟨t, rfl⟩ := htexts k hk
    exact Bool.eq_false_iff.mpr fun hsame => hne (Value.same_text_iff.mp hsame).symm
  · intro k hk
    obtain ⟨t, rfl⟩ := htexts k hk
    exact Value.isProper_text t

/-- Copied rows stand under the keys of the entries and hold the members of their values. -/
theorem copied_of_copyRows {entries : List (Value × Value)} {rows : Entries (List Value)}
    (h : copyRows entries = .ok rows) :
    rows.map Prod.fst = entries.map Prod.fst ∧
      ∀ row ∈ rows, ∃ e ∈ entries, e.2.members? = some row.2 := by
  induction entries generalizing rows with
  | nil =>
    obtain rfl := Except.ok.inj h
    simp
  | cons e entries ih =>
    simp only [copyRows] at h
    split at h
    · contradiction
    · next names hnames =>
      split at h
      · next rows' hrows =>
        obtain rfl := Except.ok.inj h
        obtain ⟨hkeys, hmembers⟩ := ih hrows
        refine ⟨by rw [List.map_cons, List.map_cons, hkeys], ?_⟩
        rw [List.forall_mem_cons]
        refine ⟨⟨e, List.mem_cons_self, hnames⟩, fun row hrow => ?_⟩
        obtain ⟨e', he', hrow'⟩ := hmembers row hrow
        exact ⟨e', List.mem_cons_of_mem _ he', hrow'⟩
      · contradiction

/-- A filter that is made from proper names and rows under keys that are pairwise different. -/
theorem IsProper.of_make {names : List Value} {rows : Entries (List Value)}
    (hnames : ∀ v ∈ names, v.IsProper) (hkeyed : Entries.AreKeyed rows)
    (hrows : ∀ row ∈ rows, ∀ v ∈ row.2, v.IsProper) (h : make names rows = .ok f) :
    f.IsProper := by
  obtain rfl := eq_of_make h
  obtain ⟨hdistinct, hproper⟩ := Value.isProper_set_iff.mp (Value.isProper_distinct hnames)
  exact ⟨hdistinct, hproper, hkeyed, hrows⟩

theorem isProper_of_configured {raw : Value} {defaults : List Value} (hraw : raw.IsProper)
    (hdefaults : ∀ v ∈ defaults, v.IsProper)
    (h : (fromConfiguration raw defaults).outcome = .ok f) : f.IsProper := by
  have hlisted := isProper_globalNamesOf (Shape.ofValue raw)
  refine .of_make (List.forall_mem_append.mpr ⟨hdefaults, hlisted⟩) ?_ ?_ h
  · rw [namesByTypeOf_ofValue]
    exact areKeyed_typesOf _
  · rw [namesByTypeOf_ofValue]
    intro row hrow
    obtain ⟨e, he, hnames⟩ := exists_entry_of_mem_typesOf hrow
    refine isProper_of_mem_propertyNames ?_ hnames
    cases raw with
    | mapping => exact ((Value.isProper_mapping_iff.mp hraw).2 e he).2
    | _ => simp [Value.entries?] at he

theorem isProper_of_ofParts {globalNames namesByType : Option Value}
    (hnames : ∀ v ∈ globalNames, v.IsProper) (htypes : ∀ v ∈ namesByType, v.IsProper)
    (h : ofParts globalNames namesByType = .ok f) : f.IsProper := by
  obtain ⟨names, entries, rows, hmembers, hentries, hrows, hmake⟩ := exists_of_ofParts h
  have hnames' : ∀ v ∈ names, v.IsProper := by
    cases globalNames with
    | none =>
      obtain rfl := Option.some.inj hmembers
      simp
    | some v => exact (hnames v rfl).of_mem_members hmembers
  have hentries' : (Value.mapping none false entries).IsProper := by
    cases namesByType with
    | none =>
      obtain rfl := Option.some.inj hentries
      simp
    | some v =>
      have hv := htypes v rfl
      cases v with
      | mapping =>
        obtain rfl := Option.some.inj hentries
        exact hv
      | _ => contradiction
  rw [Value.isProper_mapping_iff] at hentries'
  obtain ⟨hkeys, hcopied⟩ := copied_of_copyRows hrows
  refine .of_make hnames' ⟨?_, ?_⟩ ?_ hmake
  · rw [hkeys, List.pairwise_map]
    exact hentries'.1
  · rw [hkeys, List.forall_mem_map]
    exact fun e he => (hentries'.2 e he).1
  · intro row hrow
    obtain ⟨e, he, hmem⟩ := hcopied row hrow
    exact (hentries'.2 e he).2.of_mem_members hmem

theorem IsBuilt.isProper (h : f.IsBuilt) : f.IsProper := by
  cases h with
  | configured hraw hdefaults h => exact isProper_of_configured hraw hdefaults h
  | ofParts hnames htypes h => exact isProper_of_ofParts hnames htypes h

/-! ## Rows -/

theorem RowsAlike.of_perm {rows rows' : Entries (List Value)} (h : rows.Perm rows') :
    RowsAlike rows rows' :=
  ⟨h.length_eq, fun e he =>
    ⟨e, h.mem_iff.mp he, Value.same_refl e.1, Value.sameItems_refl e.2⟩⟩

theorem IsProper.isProper_typesSnapshot (hf : f.IsProper) : f.typesSnapshot.IsProper := by
  rw [typesSnapshot, Value.isProper_mapping_iff, List.pairwise_map, List.forall_mem_map]
  refine ⟨List.pairwise_map.mp hf.keyed.pairwise, fun e he => ⟨?_, ?_⟩⟩
  · exact hf.keyed.isProper e.1 (List.mem_map_of_mem he)
  · exact Value.isProper_list_iff.mpr (hf.rows e he)

/-- Rows are the same in either direction. -/
theorem IsProper.rowsAlike_symm (hf : f.IsProper) (hg : g.IsProper)
    (h : RowsAlike f.namesByType g.namesByType) : RowsAlike g.namesByType f.namesByType := by
  rw [← same_typesSnapshot_iff] at h ⊢
  exact Value.same_symm hf.isProper_typesSnapshot hg.isProper_typesSnapshot h

/-- In rows that are the same, a look-up that finds names finds the same names in the other. -/
theorem exists_find?_of_rowsAlike (hf : f.IsProper) (hg : g.IsProper)
    (h : RowsAlike f.namesByType g.namesByType) {key : Value} (hkey : key.IsProper)
    {names : List Value} (hfound : Entries.find? f.namesByType key = some names) :
    ∃ names', Entries.find? g.namesByType key = some names' ∧
      Value.sameItems names names' = true := by
  obtain ⟨k, hmem, hsame⟩ := (Entries.find?_eq_some_iff hf.keyed hkey).mp hfound
  obtain ⟨⟨k', names'⟩, hmem', hkeys, hnames⟩ := h.2 _ hmem
  have hk := hf.keyed.isProper k (List.mem_map_of_mem hmem)
  have hk' := hg.keyed.isProper k' (List.mem_map_of_mem hmem')
  have hsame' := Value.same_trans (Value.same_symm hk hk' hkeys) hsame
  exact ⟨names', (Entries.find?_eq_some_iff hg.keyed hkey).mpr ⟨k', hmem', hsame'⟩, hnames⟩

/-- **Rows are the same** if every look-up finds the same names in both, in the same order and as
many times, or nothing. -/
theorem rowsAlike_iff (hf : f.IsProper) (hg : g.IsProper) :
    RowsAlike f.namesByType g.namesByType ↔
      ∀ key : Value, key.IsProper →
        Option.Rel (fun names names' => Value.sameItems names names' = true)
          (Entries.find? f.namesByType key) (Entries.find? g.namesByType key) := by
  constructor
  · intro h key hkey
    cases hfound : Entries.find? f.namesByType key with
    | some names =>
      obtain ⟨names', hfound', hnames⟩ := exists_find?_of_rowsAlike hf hg h hkey hfound
      rw [hfound']
      exact .some hnames
    | none =>
      cases hfound' : Entries.find? g.namesByType key with
      | none => exact .none
      | some names' =>
        have hsymm := hf.rowsAlike_symm hg h
        obtain ⟨names, hfound'', -⟩ := exists_find?_of_rowsAlike hg hf hsymm hkey hfound'
        rw [hfound] at hfound''
        contradiction
  · intro h
    have hfound : ∀ key : Value, key.IsProper →
        ((Entries.find? f.namesByType key).isSome ↔
          (Entries.find? g.namesByType key).isSome) := by
      intro key hkey
      rw [isSome_eq_of_rel (h key hkey)]
    -- rows are found one in the other, and no two of them as one, so they are equal in number
    refine ⟨le_antisymm ?_ ?_, fun e he => ?_⟩
    · exact hf.keyed.length_le hg.keyed fun key hkey => (hfound key hkey).mp
    · exact hg.keyed.length_le hf.keyed fun key hkey => (hfound key hkey).mpr
    · have hkey := hf.keyed.isProper e.1 (List.mem_map_of_mem he)
      have hrel := h e.1 hkey
      rw [Entries.find?_of_mem hf.keyed he] at hrel
      cases hnames' : Entries.find? g.namesByType e.1 with
      | none =>
        rw [hnames'] at hrel
        contradiction
      | some names' =>
        rw [hnames', Option.rel_some_some] at hrel
        obtain ⟨k', hmem, hsame⟩ := (Entries.find?_eq_some_iff hg.keyed hkey).mp hnames'
        have hk' := hg.keyed.isProper k' (List.mem_map_of_mem hmem)
        exact ⟨_, hmem, Value.same_symm hk' hkey hsame, hrel⟩

/-! ## Global names -/

theorem IsProper.isProper_set (hf : f.IsProper) : (Value.set none true f.globalNames).IsProper :=
  Value.isProper_set_iff.mpr ⟨hf.distinct, hf.globalNames⟩

/-- Global names are the same set if look-ups among them agree. -/
theorem globalNames_iff (hf : f.IsProper) (hg : g.IsProper) :
    (f.globalNames.length = g.globalNames.length ∧
        Value.allIn f.globalNames g.globalNames = true) ↔
      ∀ v : Value, v.memberOf f.globalNames = v.memberOf g.globalNames := by
  constructor
  · intro h
    have hmembers := Value.same_members hf.isProper_set hg.isProper_set (Value.same_set_iff.mpr h)
      rfl rfl
    exact Value.memberOf_eq_of_sameMembers hf.globalNames hg.globalNames hmembers
  · intro h
    have hmembers := Value.SameMembers.of_memberOf_eq hf.globalNames hg.globalNames h
    have hsame := distinct_same hf.globalNames hg.globalNames hmembers
    rwa [distinct_eq_self hf.distinct, distinct_eq_self hg.distinct] at hsame

/-! ## Filters -/

/-- **Filters are the same** if every look-up finds the same in both: of a value among the global
names, and of a type among the rows, where the names found have an order. -/
theorem same_iff_lookups (hf : f.IsProper) (hg : g.IsProper) :
    f.same g = true ↔
      (∀ v : Value, v.memberOf f.globalNames = v.memberOf g.globalNames) ∧
      ∀ key : Value, key.IsProper →
        Option.Rel (fun names names' => Value.sameItems names names' = true)
          (Entries.find? f.namesByType key) (Entries.find? g.namesByType key) := by
  rw [same_iff, globalNames_iff hf hg, rowsAlike_iff hf hg]

/-- Two filters answer alike: they have one digest, hold the same names for every type, in order,
and answer every question in the same way, or refuse both. -/
structure Agree (f g : NameFilter) : Prop where
  digest : f.digest = g.digest
  isEmpty : f.isEmpty = g.isEmpty
  namesFor : ∀ typeId, Value.sameItems (f.namesFor typeId) (g.namesFor typeId) = true
  matchesType : ∀ typeId name, f.matchesType typeId name = g.matchesType typeId name
  matchesOwner : ∀ owner name, f.matchesOwner owner name = g.matchesOwner owner name

theorem sameItems_getD_of_rel {o o' : Option (List Value)}
    (h : Option.Rel (fun names names' => Value.sameItems names names' = true) o o') :
    Value.sameItems (o.getD []) (o'.getD []) = true := by
  cases h with
  | some h => exact h
  | none => exact Value.sameItems_refl []

theorem isProper_namesUnder (hf : f.IsProper) (t : String) :
    ∀ v ∈ f.namesUnder t, v.IsProper := by
  intro v hv
  unfold namesUnder at hv
  cases hfound : Entries.findText? f.namesByType t with
  | none => simp [hfound] at hv
  | some names =>
    rw [hfound, Option.getD_some] at hv
    have hkey := Value.isProper_text t
    obtain ⟨k, hmem, -⟩ := (Entries.find?_eq_some_iff hf.keyed hkey).mp hfound
    exact hf.rows _ hmem v hv

/-- **Filters that are the same answer alike**, whatever they are asked. -/
theorem agree_of_same (hf : f.IsProper) (hg : g.IsProper) (h : f.same g = true) : f.Agree g := by
  obtain ⟨hset, hrows⟩ := same_iff.mp h
  obtain ⟨hglobal, hlookups⟩ := (same_iff_lookups hf hg).mp h
  have hunder : ∀ t, Value.sameItems (f.namesUnder t) (g.namesUnder t) = true :=
    fun t => sameItems_getD_of_rel (hlookups (.text t) (Value.isProper_text t))
  obtain ⟨htype, howner⟩ := matches_eq_of_memberOf hglobal fun t =>
    Value.memberOf_eq_of_sameItems (isProper_namesUnder hf t) (isProper_namesUnder hg t) (hunder t)
  refine ⟨?_, ?_, fun typeId => ?_, htype, howner⟩
  · rw [digest, digest, Value.setDigest_of_same hf.isProper_set hg.isProper_set hset]
  · rw [isEmpty, isEmpty, Value.isEmpty_eq_of_length_eq hset.1,
      Value.isEmpty_eq_of_length_eq hrows.1]
  · unfold namesFor
    cases typeKey? typeId with
    | none => exact Value.sameItems_refl []
    | some t => exact hunder t

end NameFilter

/-! ## Pairs of filters -/

namespace OutputFilters

open NameFilter (Agree)

variable {c d : OutputFilters}

/-- A pair that is made from proper values: of two filters, or built from a configuration. -/
inductive IsBuilt (c : OutputFilters) : Prop
  | ofFilters (hexcludes : c.excludes.IsBuilt) (hincludes : c.includes.IsBuilt) : IsBuilt c
  | ofConfiguration {configuration extraExcludes extraIncludes : Value}
    (hconfiguration : configuration.IsProper) (hexcludes : extraExcludes.IsProper)
    (hincludes : extraIncludes.IsProper)
    (h : (build configuration extraExcludes extraIncludes).outcome = .ok c) : IsBuilt c

theorem isBuilt_of_buildSide {entries : List (Value × Value)}
    (hentries : ∀ e ∈ entries, e.2.IsProper) {s : Side} {extra : Value} (hextra : extra.IsProper)
    {f : NameFilter} (h : (buildSide entries s extra).outcome = .ok f) : f.IsBuilt := by
  obtain ⟨listed, hlisted, hf⟩ := exists_fromConfiguration_of_buildSide h
  have hraw : (sideValue entries s).IsProper := by
    rcases sideValue_mem entries s with hnone | ⟨e, he, heq⟩
    · rw [hnone]
      trivial
    · rw [heq]
      exact hentries e he
  refine .configured hraw (List.forall_mem_append.mpr ⟨?_, hextra.of_mem_members hlisted⟩) hf
  cases s <;> simp [Side.builtIn]

theorem IsBuilt.side (h : c.IsBuilt) (s : Side) : (c.side s).IsBuilt := by
  suffices hsides : c.excludes.IsBuilt ∧ c.includes.IsBuilt by
    cases s with
    | excludes => exact hsides.1
    | includes => exact hsides.2
  cases h with
  | ofFilters hexcludes hincludes => exact ⟨hexcludes, hincludes⟩
  | @ofConfiguration configuration _ _ hconfiguration hextra hextra' h =>
    obtain ⟨entries, hentries, hexcludes, hincludes⟩ := exists_buildSide_of_build h
    have hproper : ∀ e ∈ entries, e.2.IsProper := by
      cases configuration with
      | mapping =>
        obtain rfl := Option.some.inj hentries
        exact fun e he => ((Value.isProper_mapping_iff.mp hconfiguration).2 e he).2
      | _ => contradiction
    exact ⟨isBuilt_of_buildSide hproper hextra hexcludes,
      isBuilt_of_buildSide hproper hextra' hincludes⟩

/-- Pairs that are the same answer alike on both sides and have one digest. -/
theorem agree_of_same (hc : c.IsBuilt) (hd : d.IsBuilt) (h : c.same d = true) :
    (∀ s, (c.side s).Agree (d.side s)) ∧ c.digest = d.digest := by
  rw [same, Bool.and_eq_true] at h
  have hexcludes : c.excludes.Agree d.excludes :=
    NameFilter.agree_of_same (hc.side .excludes).isProper (hd.side .excludes).isProper h.1
  have hincludes : c.includes.Agree d.includes :=
    NameFilter.agree_of_same (hc.side .includes).isProper (hd.side .includes).isProper h.2
  constructor
  · rintro (_ | _)
    · exact hexcludes
    · exact hincludes
  · rw [digest, digest, hexcludes.digest, hincludes.digest]

/-- **Sameness is a congruence.** Filters are the same just if every value is looked up with one
result among their global names and every type among their rows, where the names of a type are
found in the same order and each as many times; so the order of the types does not count. Filters
that are the same answer all questions alike and have one digest, and so have pairs of filters that
are the same, on both sides. -/
theorem same_congruence :
    (∀ f g : NameFilter, f.IsBuilt → g.IsBuilt →
      (f.same g = true ↔
        (∀ v : Value, v.memberOf f.globalNames = v.memberOf g.globalNames) ∧
        ∀ key : Value, key.IsProper →
          Option.Rel (fun names names' => Value.sameItems names names' = true)
            (Entries.find? f.namesByType key) (Entries.find? g.namesByType key)) ∧
      ((∀ v : Value, v.memberOf f.globalNames = v.memberOf g.globalNames) →
        f.namesByType.Perm g.namesByType → f.same g = true) ∧
      (f.same g = true → f.Agree g)) ∧
    ∀ c d : OutputFilters, c.IsBuilt → d.IsBuilt → c.same d = true →
      (∀ s, (c.side s).Agree (d.side s)) ∧ c.digest = d.digest := by
  refine ⟨fun f g hf hg => ⟨?_, fun hglobal hperm => ?_, ?_⟩, fun c d hc hd => agree_of_same hc hd⟩
  · exact NameFilter.same_iff_lookups hf.isProper hg.isProper
  · rw [NameFilter.same_iff, NameFilter.globalNames_iff hf.isProper hg.isProper]
    exact ⟨hglobal, .of_perm hperm⟩
  · exact NameFilter.agree_of_same hf.isProper hg.isProper

/-- Numbers of different kinds and types in another order make no difference, whichever way filters
are made; the order of names does, and so does a name that is there twice. -/
theorem same_congruence_numbers :
    ∃ f g : NameFilter,
      NameFilter.ofParts (some (.list none [.text "x", .int 1]))
        (some (.mapping none true [(.text "User", .tuple none [.text "a", .text "b"]),
          (.text "Item", .set none false [.text "c"])])) = .ok f ∧
      (NameFilter.fromConfiguration
        (.mapping none false [(.text "Item", .text "c"), (.text "User", .text "a, b")])
        [.bool true, .text "x"]).outcome = .ok g ∧
      f.same g = true ∧ f.Agree g ∧ (∀ s, ((mk f g).side s).Agree ((mk g f).side s)) ∧
      f.same { g with namesByType :=
        [(.text "Item", [.text "c"]), (.text "User", [.text "b", .text "a"])] } = false ∧
      f.same { g with namesByType :=
        [(.text "Item", [.text "c", .text "c"]), (.text "User", [.text "a", .text "b"])] } =
          false := by
  have hone : (Value.int 1).same (.bool true) = true := by
    rw [Value.same_of_numeric _ rfl, Value.numeric?, if_pos rfl, Int.one_mul]
    exact beq_self_eq_true _
  have hone' : (Value.bool true).same (.int 1) = true := Value.same_symm trivial trivial hone
  have hnames : distinct [.text "x", .int 1] = [.text "x", .int 1] := by
    refine distinct_eq_self (List.pairwise_pair.mpr ?_)
    rw [Bool.eq_false_iff, ne_eq, Value.same_text_iff]
    simp
  have hnames' : distinct [.bool true, .text "x"] = [.bool true, .text "x"] := by
    refine distinct_eq_self (List.pairwise_pair.mpr ?_)
    rw [Bool.eq_false_iff, ne_eq, Value.same_text_right_iff]
    simp
  have hf : NameFilter.ofParts (some (.list none [.text "x", .int 1]))
      (some (.mapping none true [(.text "User", .tuple none [.text "a", .text "b"]),
        (.text "Item", .set none false [.text "c"])])) =
      .ok ⟨[.text "x", .int 1],
        [(.text "User", [.text "a", .text "b"]), (.text "Item", [.text "c"])]⟩ := by
    simp [NameFilter.ofParts, Value.members?, NameFilter.copyRows, NameFilter.make, hnames,
      Value.allHashable, Value.isHashable]
  have hrows : NameFilter.typesOf [(.text "Item", .text "c"), (.text "User", .text "a, b")] =
      [(.text "Item", [.text "c"]), (.text "User", [.text "a", .text "b"])] := by cbv
  have hg : (NameFilter.fromConfiguration
      (.mapping none false [(.text "Item", .text "c"), (.text "User", .text "a, b")])
      [.bool true, .text "x"]).outcome =
      .ok ⟨[.bool true, .text "x"],
        [(.text "Item", [.text "c"]), (.text "User", [.text "a", .text "b"])]⟩ := by
    simp [NameFilter.fromConfiguration, Shape.ofValue, NameFilter.globalNamesOf,
      NameFilter.namesByTypeOf, NameFilter.make, hnames', hrows, Value.allHashable,
      Value.isHashable]
  have hsame : (NameFilter.mk [.text "x", .int 1]
      [(.text "User", [.text "a", .text "b"]), (.text "Item", [.text "c"])]).same
      ⟨[.bool true, .text "x"],
        [(.text "Item", [.text "c"]), (.text "User", [.text "a", .text "b"])]⟩ = true := by
    simp [NameFilter.same, Value.allIn, Value.sameItems, hone]
  have hsame' : (NameFilter.mk [.bool true, .text "x"]
      [(.text "Item", [.text "c"]), (.text "User", [.text "a", .text "b"])]).same
      ⟨[.text "x", .int 1],
        [(.text "User", [.text "a", .text "b"]), (.text "Item", [.text "c"])]⟩ = true := by
    simp [NameFilter.same, Value.allIn, Value.sameItems, hone']
  have hfbuilt : (NameFilter.mk _ _).IsBuilt := .ofParts (by simp) (by simp) hf
  have hgbuilt : (NameFilter.mk _ _).IsBuilt := .configured (by simp) (by simp [Value.IsProper]) hg
  obtain ⟨hfilters, hpairs⟩ := same_congruence
  obtain ⟨-, -, hagree⟩ := hfilters _ _ hfbuilt hgbuilt
  obtain ⟨hsides, -⟩ := hpairs ⟨_, _⟩ ⟨_, _⟩ (.ofFilters hfbuilt hgbuilt)
    (.ofFilters hgbuilt hfbuilt) (by rw [same, hsame, hsame', Bool.and_self])
  refine ⟨_, _, hf, hg, hsame, hagree hsame, hsides, ?_, ?_⟩
  · simp [NameFilter.same, Value.allIn, Value.sameItems]
  · simp [NameFilter.same, Value.allIn, Value.sameItems]

end OutputFilters

end PropertyFilter
