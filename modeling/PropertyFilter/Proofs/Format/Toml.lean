import PropertyFilter.Format.Toml.Document
import PropertyFilter.Proofs.Format.Json

/-!
# What TOML documents hold

## Main definitions

* `Toml.IsTable t`: a table that holds plain data and times of day
* `Toml.Kept P`: statements keep a property of tables

## Main results

* `Toml.Keeps.within`: a change behind a key keeps such tables
* `Toml.Kept.read`: what statements keep holds of a document
* `Toml.isData_read`: a document holds plain data and times of day
-/

namespace PropertyFilter.Toml

open Json (ReadsData)

variable {cs : List Char} {fuel : Nat} {t : Table} {key : List String} {v : Value}

/-! ## Scalars -/

theorem readsData_readMoment? {x : ReadResult (Value × List Char)} (h : readMoment? cs = some x) :
    ReadsData true x := by
  obtain ⟨⟨⟨year, month, day⟩, rest⟩, -, h⟩ := Option.bind_eq_some_iff.mp h
  dsimp only at h
  split at h
  · obtain rfl := Option.some.inj h
    exact .error _
  · split at h
    · obtain rfl := Option.some.inj h
      exact .ok (by simp)
    · obtain rfl := Option.some.inj h
      exact .ok (by simp)

theorem readsData_readDecimal? {x : ReadResult (Value × List Char)}
    (h : readDecimal? cs = some x) : ReadsData true x := by
  obtain ⟨⟨whole, rest⟩, -, h⟩ := Option.bind_eq_some_iff.mp h
  dsimp only at h
  split at h
  · split at h
    · obtain rfl := Option.some.inj h
      exact .error _
    · obtain rfl := Option.some.inj h
      exact .ok (by simp)
  · obtain rfl := Option.some.inj h
    exact .ok (by simp)

theorem isData_readBased? {r : Value × List Char} (h : readBased? cs = some r) :
    r.1.IsData true := by
  have hbased : ∀ {base : Nat} {isDigit : Char → Bool} {rest : List Char},
      takeBased? base isDigit rest = some r → r.1.IsData true := by
    intro base isDigit rest h
    obtain ⟨⟨ds, after⟩, -, h⟩ := Option.bind_eq_some_iff.mp h
    obtain rfl := Option.some.inj h
    simp
  unfold readBased? at h
  split at h
  · exact hbased h
  · exact hbased h
  · exact hbased h
  · contradiction

theorem readsData_readNumber? {x : ReadResult (Value × List Char)} (h : readNumber? cs = some x) :
    ReadsData true x := by
  unfold readNumber? at h
  split at h
  · next r hr =>
    obtain rfl := Option.some.inj h
    exact .ok (isData_readBased? hr)
  · exact readsData_readDecimal? h

theorem isData_readSpecial? {r : Value × List Char} (h : readSpecial? cs = some r) :
    r.1.IsData true := by
  unfold readSpecial? at h
  dsimp only at h
  split at h
  · obtain rfl := Option.some.inj h
    simp
  · obtain ⟨rest, -, rfl⟩ := Option.map_eq_some_iff.mp h
    simp

theorem readsData_readScalar : ReadsData true (readScalar cs) := by
  unfold readScalar
  split
  · exact .ok (by simp)
  · exact .ok (by simp)
  · split
    · next r hr => exact readsData_readMoment? hr
    · split
      · next r hr =>
        obtain ⟨⟨t, rest⟩, -, rfl⟩ := Option.map_eq_some_iff.mp hr
        exact .ok (by simp)
      · split
        · next r hr => exact readsData_readNumber? hr
        · split
          · next r hr => exact .ok (isData_readSpecial? hr)
          · exact .error _

/-! ## Tables -/

/-- A table that holds plain data and times of day. -/
def IsTable (t : Table) : Prop := ∀ e ∈ t, e.1.IsData true ∧ e.2.IsData true

theorem isTable_nil : IsTable [] := by simp [IsTable]

theorem IsTable.insert (ht : IsTable t) (hv : v.IsData true) (name : String) :
    IsTable (Entries.insert (.text name) v t) :=
  Entries.forall_mem_insert (by simp) hv ht

/-- What is found in a table is such data too. -/
theorem IsTable.isData (ht : IsTable t) {name : String} (h : Entries.findText? t name = some v) :
    v.IsData true := by
  obtain ⟨e, he, -, rfl⟩ := Entries.mem_of_find?_eq_some h
  exact (ht e he).2

/-- A change that keeps tables of plain data. -/
def Keeps (f : Change) : Prop := ∀ t, IsTable t → Yields IsTable (f t)

theorem isData_changeValue {enterArrays : Bool} {f : Change} (hf : Keeps f)
    (hv : v.IsData true) : Yields (·.IsData true) (changeValue enterArrays f v) := by
  unfold changeValue
  split
  · next l view es =>
    obtain rfl : view = false := by
      rw [Value.IsData] at hv
      exact hv.1
    rw [Value.isData_mapping_iff] at hv
    exact (hf es hv).map fun t ht => Value.isData_mapping_iff.mpr ht
  · next l items =>
    rw [Value.isData_list_iff] at hv
    split
    · next l' view es hlast =>
      have hmem := hv _ (List.mem_of_getLast? hlast)
      obtain rfl : view = false := by
        rw [Value.IsData] at hmem
        exact hmem.1
      rw [Value.isData_mapping_iff] at hmem
      refine (hf es hmem).map fun t ht => ?_
      rw [Value.isData_list_iff, List.forall_mem_append, List.forall_mem_singleton,
        Value.isData_mapping_iff]
      exact ⟨fun w hw => hv w (List.dropLast_subset _ hw), ht⟩
    · exact .error _
  · exact .error _

/-- **A change behind a key** keeps tables of plain data. -/
theorem Keeps.within {f : Change} (hf : Keeps f) (enterArrays : Bool) (key : List String) :
    Keeps (within enterArrays key f) := by
  induction key with
  | nil => exact hf
  | cons k ks ih =>
    intro t ht
    rw [Toml.within]
    refine Yields.bind (P := (·.IsData true)) (isData_changeValue ih ?_) fun v' hv' => .ok ?_
    · cases h : Entries.findText? t k with
      | none => simp
      | some v => exact ht.isData h
    · exact ht.insert hv' k

theorem Keeps.addNew (hv : v.IsData true) (name : String) : Keeps (addNew name v) := by
  intro t ht
  unfold Toml.addNew
  split
  · exact .error _
  · exact .ok (ht.insert hv name)

theorem Keeps.appendTable (name : String) : Keeps (appendTable name) := by
  intro t ht
  unfold Toml.appendTable
  split
  · exact .ok (ht.insert (by simp) name)
  · next l items h =>
    have hitems := Value.isData_list_iff.mp (ht.isData h)
    refine .ok (ht.insert ?_ name)
    rw [Value.isData_list_iff, List.forall_mem_append]
    exact ⟨hitems, by simp⟩
  · exact .error _

/-! ## Values -/

theorem isTable_addInline (ht : IsTable t) (hv : v.IsData true) (marks : Marks) :
    Yields (fun r => IsTable r.1) (addInline t marks key v) := by
  unfold addInline
  dsimp only [splitKey]
  split
  · exact .error _
  · exact (((Keeps.addNew hv _).within false _) t ht).bind fun t' ht' => .ok ht'

/-- Values, items and pairs hold plain data and times of day. -/
theorem readsData (fuel : Nat) :
    (∀ cs, ReadsData true (readValue fuel cs)) ∧
    (∀ cs, Yields (fun r => ∀ v ∈ r.1, v.IsData true) (readItems fuel cs)) ∧
    ∀ t marks cs, IsTable t → Yields (fun r => IsTable r.1) (readPairs fuel t marks cs) := by
  induction fuel with
  | zero =>
    refine ⟨fun cs => ?_, fun cs => ?_, fun t marks cs ht => ?_⟩
    · rw [readValue]
      exact .error _
    · rw [readItems]
      exact .error _
    · rw [readPairs]
      exact .error _
  | succ fuel ih =>
    obtain ⟨hvalue, hitems, hpairs⟩ := ih
    refine ⟨fun cs => ?_, fun cs => ?_, fun t marks cs ht => ?_⟩
    · rw [readValue.eq_def]
      dsimp only
      split
      · exact .map_of_forall (by simp)
      · split
        · refine .of_forall fun rest => ?_
          split
          · exact .ok (by simp)
          · exact (hitems _).bind fun r hr => .ok (Value.isData_list_iff.mpr hr)
        · split
          · exact .ok (by simp)
          · exact (hpairs [] [] _ isTable_nil).map fun r hr => Value.isData_mapping_iff.mpr hr
        · exact readsData_readScalar
    · rw [readItems]
      refine (hvalue cs).bind fun (v, rest) hv => ?_
      refine .of_forall fun rest => ?_
      split
      · exact .ok (by simpa using hv)
      · refine .of_forall fun more => ?_
        split
        · exact .ok (by simpa using hv)
        · refine (hitems _).bind fun (vs, after) hvs => .ok ?_
          simpa using ⟨hv, hvs⟩
      · exact .error _
    · rw [readPairs]
      refine .of_forall fun (key, rest) => ?_
      dsimp only
      split
      · refine (hvalue _).bind fun (v, rest) hv => ?_
        refine (isTable_addInline ht hv marks).bind fun (t', marks') ht' => ?_
        dsimp only
        split
        · exact .ok ht'
        · exact hpairs t' marks' _ ht'
        · exact .error _
      · exact .error _

/-! ## Statements -/

/-- A property of tables that statements keep. -/
structure Kept (P : Table → Prop) : Prop where
  openTable : ∀ key t, P t → Yields P (within true key .ok t)
  appendTable : ∀ key name t, P t → Yields P (within true key (appendTable name) t)
  addNew : ∀ key name v t, v.IsData true → P t → Yields P (within true key (addNew name v) t)

theorem kept_isTable : Kept IsTable where
  openTable key t ht := Keeps.within (fun _ ht => .ok ht) true key t ht
  appendTable key name t ht := (Keeps.appendTable name).within true key t ht
  addNew key name _ t hv ht := (Keeps.addNew hv name).within true key t ht

namespace Kept

variable {P : Table → Prop} {b : Builder}

theorem builder_openTable (hP : Kept P) (hb : P b.tables) :
    Yields (fun b' => P b'.tables) (b.openTable key) := by
  unfold Builder.openTable
  split
  · exact .error _
  · exact (hP.openTable key b.tables hb).bind fun t ht => .ok ht

theorem builder_openArray (hP : Kept P) (hb : P b.tables) :
    Yields (fun b' => P b'.tables) (b.openArray key) := by
  unfold Builder.openArray
  dsimp only [splitKey]
  split
  · exact .error _
  · exact (hP.appendTable _ _ b.tables hb).bind fun t ht => .ok ht

theorem builder_addPair (hP : Kept P) (hb : P b.tables) (hv : v.IsData true) :
    Yields (fun b' => P b'.tables) (b.addPair key v) := by
  unfold Builder.addPair
  dsimp only [splitKey]
  split
  · exact .error _
  · split
    · exact .error _
    · exact (hP.addNew _ _ v b.tables hv hb).bind fun t ht => .ok ht

theorem readHeader (hP : Kept P) (hb : P b.tables) :
    Yields (fun r => P r.1.tables) (readHeader b cs) := by
  have hsettle : P b.settle.tables := hb
  unfold Toml.readHeader
  split
  · refine .of_forall fun (key, rest) => (hP.builder_openArray hsettle).bind fun b' hb' => ?_
    split
    · exact .ok hb'
    · exact .error _
  · refine .of_forall fun (key, rest) => (hP.builder_openTable hsettle).bind fun b' hb' => ?_
    split
    · exact .ok hb'
    · exact .error _

theorem readPair (hP : Kept P) (hb : P b.tables) :
    Yields (fun r => P r.1.tables) (readPair b cs) := by
  unfold Toml.readPair
  refine .of_forall fun (key, rest) => ?_
  dsimp only
  split
  · refine ((readsData _).1 _).bind fun (v, rest) hv => ?_
    exact (hP.builder_addPair hb hv).bind fun b' hb' => .ok hb'
  · exact .error _

theorem readStatement (hP : Kept P) (hb : P b.tables) :
    Yields (fun r => P r.1.tables) (readStatement b cs) := by
  unfold Toml.readStatement
  split
  · exact .ok hb
  · exact .ok hb
  · exact .ok hb
  · exact hP.readHeader hb
  · split
    · exact hP.readPair hb
    · exact .error _

theorem readLines (hP : Kept P) (hb : P b.tables) :
    Yields (fun b' => P b'.tables) (readLines fuel b cs) := by
  induction fuel generalizing b cs with
  | zero => exact .error _
  | succ fuel ih =>
    rw [Toml.readLines]
    refine (hP.readStatement hb).bind fun (b', rest) hb' => .of_forall fun rest' => ?_
    split
    · exact .ok hb'
    · exact ih hb'
    · exact .error _

/-- **What statements keep** holds of the table of a document. -/
theorem read (hP : Kept P) (hnil : P []) :
    Yields (fun v => ∃ t, v = .mapping none false t ∧ P t) (read cs) := by
  refine Yields.map (P := fun b => P b.tables) (hP.readLines hnil) fun b hb => ?_
  exact ⟨b.tables, rfl, hb⟩

end Kept

/-- **A document holds plain data** and times of day. -/
theorem isData_read : Yields (·.IsData true) (read cs) := by
  intro v hv
  obtain ⟨t, rfl, ht⟩ := kept_isTable.read isTable_nil v hv
  exact Value.isData_mapping_iff.mpr ht

end PropertyFilter.Toml
