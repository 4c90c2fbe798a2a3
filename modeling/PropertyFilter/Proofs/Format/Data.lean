import PropertyFilter.Command.Overrides
import PropertyFilter.Proofs.Filter.Sides
import PropertyFilter.Proofs.Format.Loading
import PropertyFilter.Proofs.Format.Toml
import PropertyFilter.Proofs.Format.Yaml.Values

/-!
# What a loaded configuration holds

A configuration that comes from a file is plain data. Only TOML has times of day.

## Main definitions

* `ReadsToml files file`: the file is a TOML document

## Main results

* `FileFormat.isData_read`: what the documents of a format hold
* `isData_of_outcome`: what a loaded configuration holds
* `isData_fileEntries`: what its entries hold
-/

namespace PropertyFilter

variable {files : FileTree} {path : String} {file : Option String} {v : Value}

/-- What the documents of a format hold. -/
theorem FileFormat.isData_read (format : FileFormat) (cs : List Char) :
    Yields (·.IsData (format = .toml)) (format.read cs) := by
  cases format with
  | toml => exact Toml.isData_read
  | json => exact Json.isData_read
  | yaml =>
    refine Yields.map (P := (·.IsData false)) Yaml.isData_read fun v hv => ?_
    split
    · exact hv
    · simp

/-- What holds of all documents of a format holds of a configuration that is loaded from one. -/
theorem of_outcome {P : Value → Prop} {p : Path} {format : FileFormat}
    (found : FileFound files path p format) (hP : ∀ cs, Yields P (format.read cs))
    (h : (loadConfiguration files path).outcome = .ok v) : P v := by
  have hyields : Yields P (readFile files format p >>= asTable p) := by
    refine Yields.bind (P := P) ?_ fun w hw => ?_
    · unfold readFile
      split
      · exact .error _
      · next cs _ =>
        split
        · next w hw => exact .ok (hP cs w hw)
        · exact .error _
        · exact .error _
    · unfold asTable
      split
      · exact .ok hw
      · exact .error _
  rw [found.outcome] at h
  exact hyields v h

/-- **A loaded configuration** holds what documents of its format hold. -/
theorem isData_of_outcome {p : Path} {format : FileFormat} (found : FileFound files path p format)
    (h : (loadConfiguration files path).outcome = .ok v) : v.IsData (format = .toml) :=
  of_outcome found format.isData_read h

/-- What has been loaded has been found. -/
theorem exists_fileFound (h : (loadConfiguration files path).outcome = .ok v) :
    ∃ p format, FileFound files path p format := by
  unfold loadConfiguration at h
  split at h
  · contradiction
  · next p hexpanded =>
    cases hsuffix : FileFormat.ofSuffix? p.suffix with
    | some format => exact ⟨p, format, hexpanded, hsuffix⟩
    | none =>
      have hformat : formatOf p = .error (.unknownFormat
          (if Text.lowercase p.suffix = "" then p.name else Text.lowercase p.suffix)) := by
        rw [formatOf, hsuffix]
      rw [readTable, hformat] at h
      contradiction

/-- The entries of a table in a document. -/
theorem outcome_fileEntries_of_table {p : Path} {format : FileFormat} {cs : List Char}
    (hpath : path ≠ "") (found : DocumentFound files path p format cs) {label : Option Label}
    {entries : List (Value × Value)} (hread : format.read cs = .ok (.mapping label false entries)) :
    (fileEntries files (some path)).outcome = .ok (Entries.ofList entries) := by
  rw [fileEntries_some hpath, Noticed.outcome_bind_ok (found.outcome_of_table hread)]
  rfl

/-- Without a file there are no entries, and else they are those of a loaded configuration. -/
theorem fileEntries_cases {entries : List (Value × Value)}
    (h : (fileEntries files file).outcome = .ok entries) :
    entries = [] ∨ ∃ path c, file = some path ∧ path ≠ "" ∧
      (loadConfiguration files path).outcome = .ok c ∧
      entries = Entries.ofList (c.entries?.getD []) := by
  unfold fileEntries at h
  split at h
  · exact .inl (Except.ok.inj h).symm
  · exact .inl (Except.ok.inj h).symm
  · next path hpath =>
    obtain ⟨c, hc, hentries⟩ := Noticed.exists_of_bind_ok h
    exact .inr ⟨path, c, rfl, fun hempty => hpath (hempty ▸ rfl), hc, (Except.ok.inj hentries).symm⟩

/-- The file of a configuration is a TOML document. -/
def ReadsToml (files : FileTree) (file : Option String) : Prop :=
  ∃ path p, file = some path ∧ path ≠ "" ∧ FileFound files path p .toml

/-- **The entries of a configuration** are plain data, with times of day only from TOML. -/
theorem isData_fileEntries {entries : List (Value × Value)}
    (h : (fileEntries files file).outcome = .ok entries) {clocks : Bool}
    (hclocks : ReadsToml files file → clocks = true) :
    ∀ e ∈ entries, e.1.IsData clocks ∧ e.2.IsData clocks := by
  rcases fileEntries_cases h with rfl | ⟨path, v, hfile, hpath, hv, rfl⟩
  · simp
  · obtain ⟨p, format, found⟩ := exists_fileFound hv
    have hdata : v.IsData clocks := by
      have hread := isData_of_outcome found hv
      by_cases htoml : format = .toml
      · subst htoml
        rw [hclocks ⟨path, p, hfile, hpath, found⟩]
        simpa using hread
      · rw [decide_eq_false htoml] at hread
        exact hread.mono
    refine Entries.forall_mem_ofList ?_
    cases hsub : v.entries? with
    | none => simp
    | some sub =>
      cases v with
      | mapping label view es =>
        obtain rfl := Option.some.inj hsub
        rw [Value.IsData, Value.entriesAreData_iff] at hdata
        exact hdata.2
      | _ => contradiction

end PropertyFilter
