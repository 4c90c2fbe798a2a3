import PropertyFilter.Format.ConfigurationFile

/-!
# How loading a configuration ends

Loading finds a table, or reports why there is none: the suffix stands for no format, the file
cannot be read, the document is malformed, or it holds no table. Beside these there are ends that
are no reports: a user whose home is not known or who cannot be looked up, a path that is no path,
octets that are no text, and a document with a value that its format cannot make. Nothing is said
about a document with a value that is not held here.

## Main definitions

* `FileFound`, `DocumentFound`: how far loading has come
* `LoadReported`: the reports, each with its condition
* `LoadEscapes`: the ends that are no reports, each with its condition
* `HoldsBeyond`: the document has a value that is not held here

## Main results

* `Path.expandHome_cases`: a path with a tilde in front
* `loadConfiguration_cases`: loading ends in one of these ways
* `outcome_eq_report_iff`, `outcome_eq_fault_iff`: and in none but them
-/

namespace PropertyFilter

variable {files : FileTree} {path : String} {p : Path} {format : FileFormat} {cs : List Char}

/-- The path leads to `p`, whose suffix stands for a format. -/
structure FileFound (files : FileTree) (path : String) (p : Path) (format : FileFormat) :
    Prop where
  expanded : (Path.ofText path).expandHome files.home? = .ok p
  suffix : FileFormat.ofSuffix? p.suffix = some format

/-- The file at the path holds a text. -/
structure DocumentFound (files : FileTree) (path : String) (p : Path) (format : FileFormat)
    (cs : List Char) : Prop extends FileFound files path p format where
  text : ∃ octets, files.read p = .ok octets ∧ Text.decodeUtf8 octets = some cs

/-- Why there is no configuration, as far as that is reported. -/
inductive LoadReported (files : FileTree) (path : String) : LoadError → Prop
  /-- The suffix stands for no format. -/
  | unknownFormat {p : Path} (expanded : (Path.ofText path).expandHome files.home? = .ok p)
    (h : FileFormat.ofSuffix? p.suffix = none) :
    LoadReported files path
      (.unknownFormat (if Text.lowercase p.suffix = "" then p.name else Text.lowercase p.suffix))
  /-- The file system refuses to read the file. -/
  | unreadable {p : Path} {format : FileFormat} {f : FileFailure}
    (found : FileFound files path p format) (h : files.read p = .error (.refused f)) :
    LoadReported files path (.unreadable p.text f)
  /-- The text is no document of the format. -/
  | malformed {p : Path} {format : FileFormat} {cs : List Char}
    (found : DocumentFound files path p format cs) (h : format.read cs = .error .malformed) :
    LoadReported files path (.malformed p.text)
  /-- The document holds something else than a table. -/
  | noTable {p : Path} {format : FileFormat} {cs : List Char} {v : Value}
    (found : DocumentFound files path p format cs) (h : format.read cs = .ok v)
    (hv : ∀ label entries, v ≠ .mapping label false entries) :
    LoadReported files path (.noTable p.text)

/-- Why there is no configuration, where that is not reported. -/
inductive LoadEscapes (files : FileTree) (path : String) : Fault → Prop
  /-- The path begins with the home directory of somebody who is not known. -/
  | home {user : List Char} {names : List String}
    (h : Path.ofText path = ⟨.here, String.ofList ('~' :: user) :: names⟩)
    (hnull : '\x00' ∉ user) (hunknown : files.home? (String.ofList user) = none) :
    LoadEscapes files path .unknownHome
  /-- The path begins with the home directory of somebody with a null character in the name. -/
  | user {user : List Char} {names : List String}
    (h : Path.ofText path = ⟨.here, String.ofList ('~' :: user) :: names⟩)
    (hnull : '\x00' ∈ user) : LoadEscapes files path .malformed
  /-- The path holds a null character. -/
  | path {p : Path} {format : FileFormat} (found : FileFound files path p format)
    (h : files.read p = .error .badPath) : LoadEscapes files path .malformed
  /-- The octets of the file are no text. -/
  | octets {p : Path} {format : FileFormat} {octets : List UInt8}
    (found : FileFound files path p format) (hread : files.read p = .ok octets)
    (h : Text.decodeUtf8 octets = none) : LoadEscapes files path .undecodable
  /-- The document holds a value that cannot be made. -/
  | document {p : Path} {format : FileFormat} {cs : List Char} {f : Fault}
    (found : DocumentFound files path p format cs) (h : format.read cs = .error (.fault f))
    (hheld : f ≠ .beyond) : LoadEscapes files path f

/-- The document has a value that is not held here: a text with half a character, or a collection
inside itself. -/
def HoldsBeyond (files : FileTree) (path : String) : Prop :=
  ∃ p format cs, DocumentFound files path p format cs ∧ format.read cs = .error (.fault .beyond)

/-! ## Paths with a tilde in front -/

/-- **A home directory** takes the place of a tilde and a user, unless the user is not known or
cannot be looked up. -/
theorem Path.expandHome_cases (home? : String → Option Path) (p : Path) :
    (∃ q, p.expandHome home? = .ok q) ∨
    ∃ user names, p = ⟨.here, String.ofList ('~' :: user) :: names⟩ ∧
      ('\x00' ∈ user ∨ '\x00' ∉ user ∧ home? (String.ofList user) = none) := by
  unfold expandHome
  split
  · next n names hanchor hnames =>
    split
    · next user huser =>
      have hp : p = ⟨.here, String.ofList ('~' :: user) :: names⟩ := by
        rw [← huser, String.ofList_toList, ← hanchor, ← hnames]
      split
      · next hnull => exact .inr ⟨user, names, hp, .inl (List.contains_iff_mem.mp hnull)⟩
      · next hnull =>
        split
        · exact .inl ⟨_, rfl⟩
        · next hunknown =>
          exact .inr ⟨user, names, hp, .inr ⟨mt List.contains_iff_mem.mpr hnull, hunknown⟩⟩
    · exact .inl ⟨p, rfl⟩
  · exact .inl ⟨p, rfl⟩

variable {home? : String → Option Path} {user : List Char} {names : List String}

theorem Path.expandHome_of_null (hnull : '\x00' ∈ user) :
    Path.expandHome home? ⟨.here, String.ofList ('~' :: user) :: names⟩ = .error .malformed := by
  simp [expandHome, hnull]

theorem Path.expandHome_of_unknown (hnull : '\x00' ∉ user)
    (hunknown : home? (String.ofList user) = none) :
    Path.expandHome home? ⟨.here, String.ofList ('~' :: user) :: names⟩ = .error .unknownHome := by
  simp [expandHome, hnull, hunknown]

/-! ## From a condition to the outcome -/

theorem FileFound.outcome (h : FileFound files path p format) :
    (loadConfiguration files path).outcome = readFile files format p >>= asTable p := by
  have hformat : formatOf p = .ok format := by rw [formatOf, h.suffix]
  have htable : readTable files p = readFile files format p >>= asTable p := by
    unfold readTable
    rw [hformat]
    rfl
  rw [loadConfiguration, h.expanded]
  simp only [htable]
  cases readFile files format p >>= asTable p <;> rfl

/-- Why a file cannot be read, given why its text cannot. -/
def LoadError.ofReadError (path : String) : ReadError → LoadError
  | .malformed => .malformed path
  | .fault f => .fault f

theorem DocumentFound.readFile_eq (h : DocumentFound files path p format cs) :
    readFile files format p = (format.read cs).mapError (LoadError.ofReadError p.text) := by
  obtain ⟨octets, hread, hdecode⟩ := h.text
  have hcharacters : readCharacters files p = .ok cs := by
    rw [readCharacters, hread]
    simp only [hdecode]
  rw [readFile, hcharacters]
  dsimp only
  cases format.read cs with
  | ok v => rfl
  | error e => cases e <;> rfl

/-- A table in a document is loaded. -/
theorem DocumentFound.outcome_of_table (h : DocumentFound files path p format cs)
    {label : Option Label} {entries : List (Value × Value)}
    (hread : format.read cs = .ok (.mapping label false entries)) :
    (loadConfiguration files path).outcome = .ok (.mapping label false entries) := by
  rw [h.toFileFound.outcome, h.readFile_eq, hread]
  rfl

/-- A report is the outcome under its condition. -/
theorem LoadReported.outcome {e : LoadError} (h : LoadReported files path e) :
    (loadConfiguration files path).outcome = .error e := by
  cases h with
  | @unknownFormat p expanded hsuffix =>
    have hformat : formatOf p = .error (.unknownFormat
        (if Text.lowercase p.suffix = "" then p.name else Text.lowercase p.suffix)) := by
      rw [formatOf, hsuffix]
    have htable : readTable files p = .error (.unknownFormat
        (if Text.lowercase p.suffix = "" then p.name else Text.lowercase p.suffix)) := by
      unfold readTable
      rw [hformat]
      rfl
    rw [loadConfiguration, expanded]
    simp only [htable]
    rfl
  | unreadable found hread =>
    rw [found.outcome, readFile, readCharacters, hread]
    rfl
  | malformed found hdocument =>
    rw [found.toFileFound.outcome, found.readFile_eq, hdocument]
    rfl
  | @noTable p format cs v found hdocument hv =>
    have htable : asTable p v = .error (.noTable p.text) := by
      unfold asTable
      split
      · next label entries => exact absurd rfl (hv label entries)
      · rfl
    rw [found.toFileFound.outcome, found.readFile_eq, hdocument]
    exact htable

/-- A fault is the outcome under its condition. -/
theorem LoadEscapes.outcome {f : Fault} (h : LoadEscapes files path f) :
    (loadConfiguration files path).outcome = .error (.fault f) := by
  cases h with
  | home h hnull hunknown =>
    rw [loadConfiguration, h, Path.expandHome_of_unknown hnull hunknown]
    rfl
  | user h hnull =>
    rw [loadConfiguration, h, Path.expandHome_of_null hnull]
    rfl
  | path found hread =>
    rw [found.outcome, readFile, readCharacters, hread]
    rfl
  | octets found hread hdecode =>
    rw [found.outcome, readFile, readCharacters, hread]
    simp only [hdecode]
    rfl
  | document found hdocument =>
    rw [found.toFileFound.outcome, found.readFile_eq, hdocument]
    rfl

theorem HoldsBeyond.outcome (h : HoldsBeyond files path) :
    (loadConfiguration files path).outcome = .error (.fault .beyond) := by
  obtain ⟨p, format, cs, found, hdocument⟩ := h
  rw [found.toFileFound.outcome, found.readFile_eq, hdocument]
  rfl

/-! ## From the outcome to its condition -/

/-- **How loading ends**: with a table, with a report, or with a fault that is no report, unless the
document has a value that is not held here. -/
theorem loadConfiguration_cases (files : FileTree) (path : String) :
    (∃ label entries,
      (loadConfiguration files path).outcome = .ok (.mapping label false entries)) ∨
    (∃ e, LoadReported files path e) ∨ (∃ f, LoadEscapes files path f) ∨
      HoldsBeyond files path := by
  rcases Path.expandHome_cases files.home? (Path.ofText path) with
    ⟨p, hexpanded⟩ | ⟨user, names, hpath, hnull | ⟨hnull, hunknown⟩⟩
  rotate_left
  · exact .inr (.inr (.inl ⟨_, .user hpath hnull⟩))
  · exact .inr (.inr (.inl ⟨_, .home hpath hnull hunknown⟩))
  cases hsuffix : FileFormat.ofSuffix? p.suffix with
  | none => exact .inr (.inl ⟨_, .unknownFormat hexpanded hsuffix⟩)
  | some format =>
  have found : FileFound files path p format := ⟨hexpanded, hsuffix⟩
  cases hread : files.read p with
  | error e =>
    cases e with
    | badPath => exact .inr (.inr (.inl ⟨_, .path found hread⟩))
    | refused f => exact .inr (.inl ⟨_, .unreadable found hread⟩)
  | ok octets =>
  cases hdecode : Text.decodeUtf8 octets with
  | none => exact .inr (.inr (.inl ⟨_, .octets found hread hdecode⟩))
  | some cs =>
  have document : DocumentFound files path p format cs := ⟨found, octets, hread, hdecode⟩
  cases hdocument : format.read cs with
  | error e =>
    cases e with
    | malformed => exact .inr (.inl ⟨_, .malformed document hdocument⟩)
    | fault f =>
      by_cases hheld : f = .beyond
      · exact .inr (.inr (.inr ⟨p, format, cs, document, hheld ▸ hdocument⟩))
      · exact .inr (.inr (.inl ⟨_, .document document hdocument hheld⟩))
  | ok v =>
    by_cases hv : ∃ label entries, v = .mapping label false entries
    · obtain ⟨label, entries, rfl⟩ := hv
      exact .inl ⟨label, entries, document.outcome_of_table hdocument⟩
    · refine .inr (.inl ⟨_, .noTable document hdocument fun label entries h => ?_⟩)
      exact hv ⟨label, entries, h⟩

/-- **Reports** are made under their conditions only. -/
theorem outcome_eq_report_iff {e : LoadError} (he : ∀ f, e ≠ .fault f) :
    (loadConfiguration files path).outcome = .error e ↔ LoadReported files path e := by
  refine ⟨fun houtcome => ?_, LoadReported.outcome⟩
  rcases loadConfiguration_cases files path with ⟨label, entries, h⟩ | ⟨e', h⟩ | ⟨f, h⟩ | h
  · rw [h] at houtcome
    contradiction
  · obtain rfl := Except.error.inj (h.outcome.symm.trans houtcome)
    exact h
  · exact absurd (Except.error.inj (houtcome.symm.trans h.outcome)) (he f)
  · exact absurd (Except.error.inj (houtcome.symm.trans h.outcome)) (he .beyond)

/-- Nothing is noticed where no table is found. -/
theorem notices_of_error {e : LoadError} (h : (loadConfiguration files path).outcome = .error e) :
    (loadConfiguration files path).notices = [] := by
  unfold loadConfiguration at h ⊢
  split at h
  · rfl
  · split at h
    · contradiction
    · rfl

end PropertyFilter
