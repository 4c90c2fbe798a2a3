import PropertyFilter.Proofs.File.Directories
import PropertyFilter.Proofs.File.Roots
import PropertyFilter.Proofs.Log.Keeping

/-!
# Opening a log file again

A log file that has been opened can be opened again later, whatever has been written to it: what
moving it aside takes away is the file and its backups, and these are not on the way to it. There is
one exception. The path of a log file may lead through a directory in the place of a backup, up and
down again, and that directory is moved on like any backup.

A log file that could not be opened cannot be opened afterwards either, though directories on the
way may have been made.

## Main definitions

* `FileLog.Reachable l way t`: the places on the way to a log file are directories, and it is none
* `FileLog.Apart l way`: no backup that is ever moved is on the way to the log file
* `FileLog.wayTo path`: the places that are on the way to a log file when it is opened

## Main results

* `FileLog.Apart.keeps`: a log file that is apart from its way stays reachable
* `FileLog.start_of_reachable`: a log file that was opened can be opened where it is reachable
* `FileLog.start_failed`: a log file that could not be opened cannot be opened afterwards
-/

namespace PropertyFilter

/-! ## Opening -/

namespace FileTree

variable {t t' : FileTree} {p : Path} {i : Nat}

/-- A file that is opened was no directory and is none, and all directories stay. -/
theorem openAppend_ok (h : t.openAppend p = .ok (t', i)) :
    hasNull p = false ∧ t.resolve p = .ok p.place ∧ t.node? p.place ≠ some .directory ∧
      t'.node? p.place ≠ some .directory ∧
      ∀ q, t.node? q = some .directory → t'.node? q = some .directory := by
  obtain ⟨hnull, hresolve, hopen⟩ := atPlace_ok h
  split at hopen
  · next hfile =>
    obtain ⟨rfl, -⟩ := Prod.mk.inj (Except.ok.inj hopen)
    exact ⟨hnull, hresolve, by simp [hfile], by simp [hfile], fun _ hq => hq⟩
  · contradiction
  · next hnone =>
    split at hopen
    · contradiction
    obtain rfl : (t.create p.place []).1 = t' := congrArg Prod.fst (Except.ok.inj hopen)
    have hmade : (t.create p.place []).1.node? p.place = some (.file t.contents.length) :=
      node?_set_self t _ (ne_nil_of_node?_eq_none hnone)
    refine ⟨hnull, hresolve, by simp [hnone], by simp [hmade], fun q hq => ?_⟩
    have hne : q ≠ p.place := fun heq => by
      rw [heq, hnone] at hq
      contradiction
    rw [node?_create_of_ne hne, hq]

/-- A file can be opened where a path leads through directories to something else. -/
theorem exists_openAppend (hnull : hasNull p = false) (hresolve : t.resolve p = .ok p.place)
    (hparent : t.node? p.place.dropLast = some .directory)
    (hplace : t.node? p.place ≠ some .directory) : ∃ opened, t.openAppend p = .ok opened := by
  rw [openAppend, atPlace, hnull, hresolve]
  simp only [Bool.false_eq_true, if_false]
  cases hnode : t.node? p.place with
  | none =>
    simp only [checkParent, hparent]
    exact ⟨_, rfl⟩
  | some node =>
    cases node with
    | directory => exact absurd hnode hplace
    | file i => exact ⟨_, rfl⟩

end FileTree

namespace FileLog

/-! ## The places of backups -/

variable {l : FileLog} {n : Nat}

/-- No backup is named by double dots: its name ends in a digit. -/
theorem up_ne_backupName (name : String) (n : Nat) : name ++ ("." ++ toString n) ≠ ".." := by
  intro h
  obtain ⟨d, hd⟩ := List.exists_mem_of_ne_nil _ (Nat.toDigits_ne_nil (n := n) (b := 10))
  have hmem : d ∈ "..".toList := by
    simp only [← h, String.toList_append, Nat.toString_eq_ofList_toDigits, String.toList_ofList]
    exact List.mem_append_right _ (List.mem_append_right _ hd)
  have hdot : d = '.' := by simpa using hmem
  have hdigit := Nat.isDigit_of_mem_toDigits (by decide) (by decide) hd
  rw [hdot] at hdigit
  contradiction

variable (hplain : ".." ∉ l.path.names) (hnames : l.path.names ≠ [])

include hplain in
/-- A backup lies in the directory of the log file. -/
theorem place_backup (n : Nat) :
    (l.backup n).place =
      l.path.start ++ (l.path.names.dropLast ++ [l.path.name ++ ("." ++ toString n)]) := by
  refine Path.place_of_plain fun hup => ?_
  rcases List.mem_append.mp hup with hup | hup
  · exact hplain ((List.dropLast_sublist _).subset hup)
  · exact up_ne_backupName _ n (List.mem_singleton.mp hup).symm

include hplain hnames

theorem length_place_backup (n : Nat) : (l.backup n).place.length = l.path.place.length := by
  have hpos : 0 < l.path.names.length := List.length_pos_iff.mpr hnames
  rw [place_backup hplain, Path.place_of_plain hplain]
  simp only [List.length_append, List.length_dropLast, List.length_singleton]
  omega

theorem start_lt_place : l.path.start.length < l.path.place.length := by
  have hpos : 0 < l.path.names.length := List.length_pos_iff.mpr hnames
  rw [Path.place_of_plain hplain, List.length_append]
  omega

/-- Neither is the log file a backup of itself, nor does it lie below one. -/
theorem not_backup_prefix (n : Nat) : ¬ (l.backup n).place <+: l.path.place := by
  intro hprefix
  have heq := hprefix.eq_of_length (length_place_backup hplain hnames n)
  have hname : l.path.names.dropLast ++ [l.path.name] = l.path.names := by
    rw [Path.name, List.getLastD_eq_getLast?, List.getLast?_eq_some_getLast hnames]
    exact List.dropLast_concat_getLast hnames
  have hnamed : l.path.start ++ (l.path.names.dropLast ++ [l.path.name ++ ("." ++ toString n)]) =
      l.path.start ++ (l.path.names.dropLast ++ [l.path.name]) := by
    rw [hname, ← place_backup hplain, ← Path.place_of_plain hplain, heq]
  have hlast := List.append_cancel_left (List.append_cancel_left hnamed)
  have hsize := congrArg String.utf8ByteSize (List.singleton_inj.mp hlast)
  rw [String.utf8ByteSize_append, String.utf8ByteSize_append] at hsize
  have hdot : (".").utf8ByteSize = 1 := rfl
  omega

omit hplain hnames

/-! ## Staying reachable -/

/-- The places on the way to a log file are directories, and it is none itself. -/
structure Reachable (l : FileLog) (way : List Place) (t : FileTree) : Prop where
  directories : ∀ q ∈ way, t.node? q = some .directory
  notDirectory : t.node? l.path.place ≠ some .directory

/-- No backup that is ever moved on is on the way to the log file. Whatever is on the way lies in
places that are on the way as well. -/
structure Apart (l : FileLog) (way : List Place) : Prop where
  plain : ".." ∉ l.path.names
  named : l.path.names ≠ []
  above : ∀ q ∈ way, ∀ place, place <+: q → l.path.start.length < place.length → place ∈ way
  backups : 0 < l.maxBytes → ∀ n : Nat, (n : Int) + 2 ≤ l.backups → (l.backup (n + 1)).place ∉ way

namespace Apart

variable {way : List Place} {t t' : FileTree}

/-- What is moved on to a backup leaves the way to the log file unless it is on it. -/
theorem displaced (h : l.Apart way) (ht : l.Reachable way t) {source : Path}
    (hsource : source.place ∉ way) (hlong : l.path.start.length < source.place.length)
    (hmove : t.displace? source (l.backup n) = some t') : l.Reachable way t' := by
  have hlength := length_place_backup h.plain h.named n
  have htarget : l.path.start.length < (l.backup n).place.length :=
    hlength ▸ start_lt_place h.plain h.named
  constructor
  · intro q hq
    have hkept : t.node? (l.backup n).place ≠ some .directory → ¬ (l.backup n).place <+: q :=
      fun hplace hbelow => hplace (ht.directories _ (h.above q hq _ hbelow htarget))
    rcases FileTree.node?_displace? hmove hkept with hsame | ⟨hbelow, -⟩
    · rw [hsame]
      exact ht.directories q hq
    · exact absurd (h.above q hq _ hbelow hlong) hsource
  · rcases FileTree.node?_displace? hmove fun _ => not_backup_prefix h.plain h.named n with
      hsame | ⟨-, hgone⟩
    · rw [hsame]
      exact ht.notDirectory
    · rw [hgone]
      simp

/-- **A log file that is apart from its way** stays reachable. -/
theorem keeps (h : l.Apart way) : l.Keeps (l.Reachable way) where
  opened ht hopen := by
    obtain ⟨-, -, -, hplace, hstay⟩ := FileTree.openAppend_ok hopen
    exact ⟨fun q hq => hstay q (ht.directories q hq), hplace⟩
  appended i bs ht := ⟨ht.directories, ht.notDirectory⟩
  moved _ _ ht hmove :=
    h.displaced ht (fun hmem => ht.notDirectory (ht.directories _ hmem))
      (start_lt_place h.plain h.named) hmove
  shifted hlimit hn ht hmove :=
    h.displaced ht (h.backups hlimit _ hn)
      (length_place_backup h.plain h.named _ ▸ start_lt_place h.plain h.named) hmove

end Apart

/-! ## Opening again -/

variable {t t' : FileTree} {path : String} {maxBytes backups : Int}

/-- The places on the way to a log file when it is opened: its path is followed as it is written to
make its directory, and then without double dots. -/
def wayTo (path : String) : List Place :=
  (Path.ofText path).way ++
    wayFrom (Path.ofText path).start (Path.collapse (Path.ofText path).names)

theorem way_normalized (p : Path) (base : String) :
    (p.normalized base).way = wayFrom p.start (Path.collapse p.names) := by
  rw [Path.way, Path.start_normalized, Path.names_normalized]

/-- How a log file is opened. -/
theorem start_ok (h : start t path maxBytes backups = (t', .ok l)) :
    ∃ t₁ i, t.makeDirectories (Path.ofText path).parent = (t₁, .ok ()) ∧
      t₁.openAppend ((Path.ofText path).normalized t.base) = .ok (t', i) ∧
      l = ⟨(Path.ofText path).normalized t.base, maxBytes, backups, some i⟩ := by
  have hbase := (FileTree.SameRoots.makeDirectories t (Path.ofText path).parent).base
  unfold start at h
  dsimp only at h
  generalize t.makeDirectories (Path.ofText path).parent = made at h hbase
  obtain ⟨t₁, made⟩ := made
  cases made with
  | error e => simp at h
  | ok _ =>
    dsimp only at h hbase
    rw [hbase] at h
    split at h
    · simp at h
    · next t₂ i hopen =>
      obtain ⟨rfl, hl⟩ := Prod.mk.inj h
      exact ⟨t₁, i, rfl, hopen, (Except.ok.inj hl).symm⟩

/-- What is known of a path at which a log file has been opened. -/
theorem named_of_start (h : start t path maxBytes backups = (t', .ok l)) :
    l.path.start = (Path.ofText path).start ∧ ".." ∉ l.path.names ∧ l.path.names ≠ [] ∧
      (Path.ofText path).names ≠ [] := by
  obtain ⟨t₁, i, hmade, hopen, rfl⟩ := start_ok h
  obtain ⟨-, -, hplace, -, -⟩ := FileTree.openAppend_ok hopen
  have hstart := FileTree.node?_start_of_isDirectory (FileTree.makeDirectories_ok hmade).1
  have hnamed : Path.collapse (Path.ofText path).names ≠ [] := by
    intro hnone
    rw [Path.place, Path.names_normalized, hnone, Path.start_normalized] at hplace
    exact hplace hstart
  refine ⟨Path.start_normalized _ _, ?_, ?_, fun hnone => hnamed ?_⟩
  · rw [Path.names_normalized]
    exact Path.up_notMem_collapse _
  · rwa [Path.names_normalized]
  · rw [hnone]
    rfl

/-- A log file that has been opened is reachable. -/
theorem reachable_of_start (h : start t path maxBytes backups = (t', .ok l)) :
    l.Reachable (wayTo path) t' := by
  obtain ⟨-, -, -, hnames⟩ := named_of_start h
  obtain ⟨t₁, i, hmade, hopen, rfl⟩ := start_ok h
  obtain ⟨-, hresolve, -, hplace, hstay⟩ := FileTree.openAppend_ok hopen
  have hparent := (FileTree.makeDirectories_ok hmade).1
  refine ⟨fun q hq => hstay q ?_, hplace⟩
  rcases List.mem_append.mp hq with hq | hq
  · exact FileTree.node?_of_isDirectory_parent hparent hnames hq
  · rw [← way_normalized] at hq
    exact FileTree.node?_of_mem_way hresolve hq

/-- A log file is apart from its way if no backup of it is on the way to its directory. -/
theorem apart_of_start (h : start t path maxBytes backups = (t', .ok l))
    (hbackups : 0 < maxBytes → ∀ n : Nat, (n : Int) + 2 ≤ backups →
      (l.backup (n + 1)).place ∉ (Path.ofText path).way) : l.Apart (wayTo path) := by
  obtain ⟨hstart, hplain, hnamed, -⟩ := named_of_start h
  obtain ⟨t₁, i, -, -, hl⟩ := start_ok h
  have hway : wayFrom (Path.ofText path).start (Path.collapse (Path.ofText path).names) =
      l.path.way := by
    rw [show l.path = (Path.ofText path).normalized t.base from congrArg FileLog.path hl,
      way_normalized]
  refine ⟨hplain, hnamed, fun q hq place hbelow hlong => ?_, fun hlimit n hn hmem => ?_⟩
  · rw [wayTo, hway, List.mem_append] at hq ⊢
    rcases hq with hq | hq
    · exact .inl (Path.mem_way_of_prefix hq hbelow (hstart ▸ hlong))
    · exact .inr (Path.mem_way_of_prefix hq hbelow hlong)
  · rw [hl] at hlimit hn
    rw [wayTo, hway, List.mem_append] at hmem
    rcases hmem with hmem | hmem
    · exact hbackups hlimit n hn hmem
    · have hshorter := Path.length_lt_of_mem_way hplain hmem
      rw [length_place_backup hplain hnamed] at hshorter
      exact Nat.lt_irrefl _ hshorter

/-- **A log file that was opened** can be opened again wherever it is reachable. -/
theorem start_of_reachable {t₁ : FileTree} (h : start t path maxBytes backups = (t₁, .ok l))
    (hbase : t'.base = t.base) (ht : l.Reachable (wayTo path) t') :
    ∃ t'' l', start t' path maxBytes backups = (t'', .ok l') ∧ l'.closed = l.closed := by
  obtain ⟨-, hplain, hnamed, hnames⟩ := named_of_start h
  obtain ⟨t₂, i, hmade, hopen, rfl⟩ := start_ok h
  obtain ⟨hnull, hresolve, -, -, -⟩ := FileTree.openAppend_ok hopen
  obtain ⟨hthere, hagain⟩ := FileTree.makeDirectories_ok hmade
  obtain ⟨hway, hway'⟩ := List.forall_mem_append.mp ht.directories
  rw [← way_normalized _ t.base] at hway'
  have hmade' := hagain t' (FileTree.isDirectory_parent_of_way hthere hnames hway)
  have habove : t'.node? ((Path.ofText path).normalized t.base).place.dropLast =
      some .directory := by
    have hlast : ((Path.ofText path).normalized t.base).place.dropLast =
        ((Path.ofText path).normalized t.base).parent.place := by
      rw [Path.place_of_plain hplain, Path.place_of_plain fun hup =>
        hplain ((List.dropLast_sublist _).subset hup), List.dropLast_append_of_ne_nil hnamed]
      rfl
    rw [hlast]
    refine hway' _ ?_
    rw [Path.way_eq hnamed]
    exact List.mem_append_right _ (List.mem_singleton_self _)
  obtain ⟨⟨t'', j⟩, hopen'⟩ := FileTree.exists_openAppend hnull
    (FileTree.resolve_of_way hresolve hway') habove ht.notDirectory
  refine ⟨t'', ⟨(Path.ofText path).normalized t.base, maxBytes, backups, some j⟩, ?_, rfl⟩
  rw [start]
  simp only [hmade', hbase, hopen']

/-- **A log file that could not be opened** cannot be opened afterwards. -/
theorem start_failed {e : FileFault} (h : start t path maxBytes backups = (t', .error e)) :
    ∃ t'' e', start t' path maxBytes backups = (t'', .error e') := by
  unfold start at h
  dsimp only at h
  split at h
  · next t₁ e₁ hmade =>
    obtain ⟨rfl, -⟩ := Prod.mk.inj h
    obtain ⟨t₂, e₂, hagain⟩ := FileTree.makeDirectories_error hmade
    exact ⟨t₂, e₂, by rw [start]; simp only [hagain]⟩
  · next t₁ hmade =>
    obtain ⟨hthere, hagain⟩ := FileTree.makeDirectories_ok hmade
    split at h
    · next e₁ hopen =>
      obtain ⟨rfl, -⟩ := Prod.mk.inj h
      exact ⟨t₁, e₁, by rw [start]; simp only [hagain t₁ hthere, hopen]⟩
    · simp at h

end FileLog

end PropertyFilter
