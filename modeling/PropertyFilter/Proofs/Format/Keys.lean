import PropertyFilter.Proofs.Format.Data

/-!
# The keys of a loaded configuration

Every reader puts an entry into a table by its key. So no key of a loaded configuration is the same
as another one, and the configuration is the very table that its entries make.

## Main definitions

* `Value.HasKeysApart v`: the keys of a value are apart

## Main results

* `FileFormat.hasKeysApart_read`: the table of a document
* `exists_entries_of_loaded`: the entries of a loaded configuration
-/

namespace PropertyFilter

open Entries (KeysApart)

variable {cs : List Char} {v : Value}

/-- The keys of a value are apart, if it has entries. -/
def Value.HasKeysApart (v : Value) : Prop := ∀ es, v.entries? = some es → KeysApart es

theorem hasKeysApart_mapping {label : Option Label} {view : Bool} {es : List (Value × Value)}
    (h : KeysApart es) : (Value.mapping label view es).HasKeysApart := by
  rintro _ ⟨⟩
  exact h

theorem hasKeysApart_of_no_entries (h : v.entries? = none) : v.HasKeysApart := by
  intro es hes
  rw [h] at hes
  contradiction

theorem Value.IsScalar.hasKeysApart (h : v.IsScalar) : v.HasKeysApart :=
  hasKeysApart_of_no_entries h.entries?_eq_none

/-! ## Documents -/

namespace Json

theorem hasKeysApart_readValue (fuel : Nat) :
    Yields (fun r => r.1.HasKeysApart) (readValue fuel cs) := by
  cases fuel with
  | zero =>
    rw [readValue]
    exact .error _
  | succ fuel =>
    rw [readValue.eq_def]
    dsimp only
    split
    · exact .map_of_forall fun r => hasKeysApart_of_no_entries rfl
    · split
      · exact .ok (hasKeysApart_of_no_entries rfl)
      · exact .map_of_forall fun r => hasKeysApart_of_no_entries rfl
    · split
      · exact .ok (hasKeysApart_mapping Entries.keysApart_nil)
      · exact .map_of_forall fun r => hasKeysApart_mapping (Entries.keysApart_ofList r.1)
    · split
      · next r hr => exact .ok (isScalar_readWord? hr).hasKeysApart
      · exact readsScalar_readNumber.mono fun r hr => hr.hasKeysApart

theorem hasKeysApart_read : Yields (·.HasKeysApart) (read cs) := by
  unfold read
  split
  · exact .error _
  · refine (hasKeysApart_readValue _).bind fun r hr => ?_
    dsimp only
    split
    · exact .ok hr
    · exact .error _

end Json

namespace Toml

/-- Tables get their entries by key. -/
theorem kept_keysApart : Kept KeysApart := by
  have hwithin : ∀ {f : Change} (key : List String),
      (∀ t, KeysApart t → Yields KeysApart (f t)) →
        ∀ t, KeysApart t → Yields KeysApart (within true key f t) := by
    intro f key hf t ht
    cases key with
    | nil => exact hf t ht
    | cons k ks => exact .of_forall fun v => .ok (ht.insert _ v)
  refine ⟨fun key => hwithin key fun t ht => .ok ht, fun key name => hwithin key fun t ht => ?_,
    fun key name v t _ => hwithin key (fun t ht => ?_) t⟩
  · unfold appendTable
    split
    · exact .ok (ht.insert _ _)
    · exact .ok (ht.insert _ _)
    · exact .error _
  · unfold addNew
    split
    · exact .error _
    · exact .ok (ht.insert _ _)

theorem hasKeysApart_read : Yields (·.HasKeysApart) (read cs) := by
  intro v hv
  obtain ⟨t, rfl, ht⟩ := kept_keysApart.read Entries.keysApart_nil v hv
  exact hasKeysApart_mapping ht

end Toml

namespace Yaml

theorem hasKeysApart_nodeValue (fuel depth : Nat) (n : Node) :
    Yields (·.HasKeysApart) (nodeValue fuel depth n) := by
  cases fuel with
  | zero => exact .error _
  | succ fuel =>
    rw [nodeValue.eq_def]
    dsimp only
    split
    · exact .map_of_forall fun vs => hasKeysApart_of_no_entries rfl
    · refine Yields.map (P := KeysApart) ?_ fun es hes => hasKeysApart_mapping hes
      split
      · exact .error _
      · exact .map_of_forall Entries.keysApart_ofList
    · exact .map_of_forall fun es => hasKeysApart_of_no_entries rfl
    · exact .map_of_forall fun vs => hasKeysApart_of_no_entries rfl
    · exact .map_of_forall fun vs => hasKeysApart_of_no_entries rfl
    all_goals first
      | exact .error _
      | exact (makesScalar_scalarNodeValue _ _ _).mono fun v hv => hv.hasKeysApart

theorem hasKeysApart_read : Yields (·.HasKeysApart) (read cs) := by
  unfold read
  refine .of_forall fun n => ?_
  split
  · exact .ok (hasKeysApart_of_no_entries rfl)
  · exact (hasKeysApart_nodeValue _ _ _).mapError

end Yaml

/-- **The table of a document** has its keys apart. -/
theorem FileFormat.hasKeysApart_read (format : FileFormat) (cs : List Char) :
    Yields (·.HasKeysApart) (format.read cs) := by
  cases format with
  | toml => exact Toml.hasKeysApart_read
  | json => exact Json.hasKeysApart_read
  | yaml =>
    refine Yields.map (P := (·.HasKeysApart)) Yaml.hasKeysApart_read fun v hv => ?_
    split
    · exact hv
    · exact hasKeysApart_mapping Entries.keysApart_nil

/-! ## Configurations -/

variable {files : FileTree} {path : String}

/-- **A loaded configuration** is a table of plain data with its keys apart. -/
theorem exists_entries_of_loaded (h : (loadConfiguration files path).outcome = .ok v) :
    ∃ label es, v = .mapping label false es ∧ KeysApart es ∧
      ∀ e ∈ es, e.1.IsData true ∧ e.2.IsData true := by
  rcases loadConfiguration_cases files path with ⟨label, es, hv⟩ | ⟨e, he⟩ | ⟨f, hf⟩ | hbeyond
  · obtain rfl := Except.ok.inj (hv.symm.trans h)
    obtain ⟨p, format, found⟩ := exists_fileFound h
    have hdata : (Value.mapping label false es).IsData true := by
      have hread := isData_of_outcome found h
      generalize decide (format = .toml) = clocks at hread
      cases clocks with
      | false => exact hread.mono
      | true => exact hread
    exact ⟨label, es, rfl, of_outcome found format.hasKeysApart_read h es rfl,
      Value.isData_mapping_iff.mp hdata⟩
  · rw [he.outcome] at h
    contradiction
  · rw [hf.outcome] at h
    contradiction
  · rw [hbeyond.outcome] at h
    contradiction

end PropertyFilter
