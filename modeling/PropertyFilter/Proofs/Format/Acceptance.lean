import PropertyFilter.Proofs.Format.Data
import PropertyFilter.Proofs.Value.Equality

/-!
# Which documents are configurations

A document that holds a table is a configuration, in every format. In YAML an empty document is an
empty table, and so is every other value that counts as nothing, a zero or an empty list for
example. What else is no table is rejected, and so is what counts as nothing in the other formats.

## Main definitions

* `FileFormat.documentValue`: the value of a document, whatever it is
* `FileFormat.CountsAsEmpty`: a value that is taken for an empty table
* `LacksTable`: a file is rejected for what its document holds

## Main results

* `FileFormat.read_of_documentValue`: what is read, given the value of the document
* `loadConfiguration_of_document`: what is loaded, for every value of a document
-/

namespace PropertyFilter

variable {files : FileTree} {path : String} {p : Path} {format : FileFormat} {cs : List Char}
  {d : Value}

namespace FileFormat

/-- The value of a document, whatever it is. -/
def documentValue (format : FileFormat) (cs : List Char) : ReadResult Value :=
  match format with
  | toml => Toml.read cs
  | yaml => Yaml.read (asLines cs)
  | json => Json.read (asLines cs)

/-- A value that is taken for an empty table: in YAML, whatever counts as nothing. -/
def CountsAsEmpty (format : FileFormat) (d : Value) : Prop := format = yaml ∧ d.isTruthy = false

instance (format : FileFormat) (d : Value) : Decidable (format.CountsAsEmpty d) :=
  inferInstanceAs (Decidable (_ ∧ _))

/-- What is read is the value of the document, unless that counts as an empty table. -/
theorem read_of_documentValue (hd : format.documentValue cs = .ok d) :
    format.read cs = .ok (if format.CountsAsEmpty d then .mapping none false [] else d) := by
  cases format with
  | toml | json => simpa [CountsAsEmpty, read, documentValue] using hd
  | yaml =>
    have hread : Yaml.read (asLines cs) = .ok d := hd
    rw [read, hread]
    cases htruthy : d.isTruthy <;> simp [Except.map, CountsAsEmpty, htruthy]

/-- Documents hold no views: a mapping in one is a table. -/
theorem eq_table_of_documentValue (hd : format.documentValue cs = .ok d)
    {entries : List (Value × Value)} (h : d.entries? = some entries) :
    ∃ label, d = .mapping label false entries := by
  have hdata : d.IsData (format = toml) := by
    cases format with
    | toml => exact Toml.isData_read d hd
    | yaml => exact Yaml.isData_read d hd
    | json => exact Json.isData_read d hd
  cases d with
  | mapping label view es =>
    obtain rfl := Option.some.inj h
    obtain rfl : view = false := hdata.1
    exact ⟨label, rfl⟩
  | _ => contradiction

end FileFormat

/-! ## Loading a document -/

/-- A file is rejected since its document holds no table. -/
def LacksTable (files : FileTree) (path : String) : Prop :=
  ∃ text, (loadConfiguration files path).outcome = .error (.noTable text)

namespace DocumentFound

/-- A table in a document is loaded, with a notice. -/
theorem load_of_table (found : DocumentFound files path p format cs) {label : Option Label}
    {entries : List (Value × Value)} (hread : format.read cs = .ok (.mapping label false entries)) :
    loadConfiguration files path =
      ⟨[.fileRead p.text], .ok (.mapping label false entries)⟩ := by
  have houtcome := found.outcome_of_table hread
  unfold loadConfiguration at houtcome ⊢
  rw [found.expanded] at houtcome ⊢
  dsimp only at houtcome ⊢
  split
  · next v hv =>
    rw [hv] at houtcome
    obtain rfl := Except.ok.inj houtcome
    rfl
  · next e he =>
    rw [he] at houtcome
    contradiction

/-- Whatever else a document holds is rejected, without a notice. -/
theorem load_of_no_table (found : DocumentFound files path p format cs)
    (hread : format.read cs = .ok d) (hnone : d.entries? = none) :
    loadConfiguration files path = ⟨[], .error (.noTable p.text)⟩ := by
  have hreport : LoadReported files path (.noTable p.text) := by
    refine .noTable found hread ?_
    rintro label entries rfl
    simp at hnone
  have hnotices := notices_of_error hreport.outcome
  rw [← hnotices, ← hreport.outcome]

/-- A mapping is loaded with the entries that it has. -/
theorem load_of_mapping (found : DocumentFound files path p format cs)
    (hd : format.documentValue cs = .ok d) {entries : List (Value × Value)}
    (hentries : d.entries? = some entries) :
    ∃ label, loadConfiguration files path =
      ⟨[.fileRead p.text], .ok (.mapping label false entries)⟩ := by
  obtain ⟨label, rfl⟩ := FileFormat.eq_table_of_documentValue hd hentries
  have hread := FileFormat.read_of_documentValue hd
  by_cases hempty : format.CountsAsEmpty (.mapping label false entries)
  · obtain rfl : entries = [] := by simpa [Value.isTruthy] using hempty.2
    rw [if_pos hempty] at hread
    exact ⟨none, found.load_of_table hread⟩
  · rw [if_neg hempty] at hread
    exact ⟨label, found.load_of_table hread⟩

/-- What is no mapping is an empty table, or is rejected. -/
theorem load_of_no_mapping (found : DocumentFound files path p format cs)
    (hd : format.documentValue cs = .ok d) (hnone : d.entries? = none) :
    loadConfiguration files path =
      if format.CountsAsEmpty d then ⟨[.fileRead p.text], .ok (.mapping none false [])⟩
      else ⟨[], .error (.noTable p.text)⟩ := by
  have hread := FileFormat.read_of_documentValue hd
  split
  · next hempty =>
    rw [if_pos hempty] at hread
    exact found.load_of_table hread
  · next hempty =>
    rw [if_neg hempty] at hread
    exact found.load_of_no_table hread hnone

theorem lacksTable_iff (found : DocumentFound files path p format cs)
    (hd : format.documentValue cs = .ok d) (hnone : d.entries? = none) :
    LacksTable files path ↔ ¬ format.CountsAsEmpty d := by
  rw [LacksTable, found.load_of_no_mapping hd hnone]
  split
  · next hempty => simp [hempty]
  · next hempty => simp [hempty]

end DocumentFound

/-- **What is loaded from a document.** A mapping is loaded with its entries, in every format. What
is no mapping is loaded as an empty table if it is in YAML and counts as nothing, and is rejected
otherwise. Hence two documents with one value that is no mapping are rejected alike, unless just one
of them is in YAML and the value counts as nothing. -/
theorem loadConfiguration_of_document (found : DocumentFound files path p format cs)
    (hd : format.documentValue cs = .ok d) :
    (∀ entries, d.entries? = some entries → ∃ label, loadConfiguration files path =
      ⟨[.fileRead p.text], .ok (.mapping label false entries)⟩) ∧
    (d.entries? = none → loadConfiguration files path =
      if format.CountsAsEmpty d then ⟨[.fileRead p.text], .ok (.mapping none false [])⟩
      else ⟨[], .error (.noTable p.text)⟩) ∧
    ∀ {files' : FileTree} {path' : String} {p' : Path} {format' : FileFormat} {cs' : List Char}
      {d' : Value}, DocumentFound files' path' p' format' cs' → format'.documentValue cs' = .ok d' →
      d.entries? = none → d.same d' = true →
      ((LacksTable files path ↔ LacksTable files' path') ↔
        d.isTruthy = true ∨ (format = .yaml ↔ format' = .yaml)) := by
  refine ⟨fun entries => found.load_of_mapping hd, found.load_of_no_mapping hd, ?_⟩
  intro files' path' p' format' cs' d' found' hd' hnone hsame
  have hnone' : d'.entries? = none := by
    have hmapping := Value.isMapping_of_same hsame
    rw [Value.isMapping, Value.isMapping, hnone, Option.isSome_none, eq_comm,
      Option.isSome_eq_false_iff, Option.isNone_iff_eq_none] at hmapping
    exact hmapping
  rw [found.lacksTable_iff hd hnone, found'.lacksTable_iff hd' hnone', not_iff_not,
    FileFormat.CountsAsEmpty, FileFormat.CountsAsEmpty, ← Value.isTruthy_of_same hsame]
  cases d.isTruthy <;> simp

/-- A directory with an empty list in YAML and in JSON. -/
def emptyLists : FileTree :=
  { FileTree.empty "/work" with
    nodes := [(["a.yaml"], .file 0), (["a.json"], .file 1)]
    contents := [[0x5b, 0x5d], [0x5b, 0x5d]] }

/-- An empty list is an empty table in YAML, and is rejected in JSON. -/
theorem loadConfiguration_of_document_brackets :
    (∃ n, loadConfiguration emptyLists "a.yaml" = ⟨[n], .ok (.mapping none false [])⟩) ∧
      LacksTable emptyLists "a.json" ∧
      ¬ (LacksTable emptyLists "a.yaml" ↔ LacksTable emptyLists "a.json") := by
  have foundYaml : DocumentFound emptyLists "a.yaml" ⟨.here, ["a.yaml"]⟩ .yaml ['[', ']'] :=
    ⟨⟨by decide, by decide⟩, _, rfl, by cbv⟩
  have foundJson : DocumentFound emptyLists "a.json" ⟨.here, ["a.json"]⟩ .json ['[', ']'] :=
    ⟨⟨by decide, by decide⟩, _, rfl, by cbv⟩
  have hyaml : FileFormat.yaml.documentValue ['[', ']'] = .ok (.list (some 0) []) := rfl
  have hjson : FileFormat.json.documentValue ['[', ']'] = .ok (.list none []) := rfl
  obtain ⟨-, hload, halike⟩ := loadConfiguration_of_document foundYaml hyaml
  obtain ⟨-, hload', -⟩ := loadConfiguration_of_document foundJson hjson
  have hsame : (Value.list (some 0) []).same (.list none []) = true := by cbv
  refine ⟨⟨_, hload rfl⟩, ⟨_, congrArg Noticed.outcome (hload' rfl)⟩, ?_⟩
  rw [halike foundJson hjson rfl hsame]
  decide

/-- An empty document has the value nothing. -/
example : FileFormat.yaml.documentValue [] = .ok .null := rfl

end PropertyFilter
