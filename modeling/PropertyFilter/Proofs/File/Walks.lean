import PropertyFilter.File.Tree
import PropertyFilter.Proofs.Outcomes

/-!
# Where paths lead

The names of a path are followed from its start, one place after the other. Which places these are
is told by the names alone; the files decide only whether every place on the way is a directory. So
a path that leads somewhere leads there in all file trees that have directories on its way.

## Main definitions

* `Path.start`, `Path.place`: the places at which a path starts and ends
* `Path.way`: the places that a path leads through, its end left out

## Main results

* `FileTree.eq_place_of_resolve`, `FileTree.node?_of_mem_way`: what is known of a path that leads
  somewhere
* `FileTree.resolve_of_way`: it leads there in any file tree that has directories on its way
* `Path.mem_way_of_prefix`: to a place below another, a path leads through that one
* `FileTree.isDirectory_parent_of_resolve`, `FileTree.isDirectory_parent_of_way`: the directory of
  a path
-/

namespace PropertyFilter

open FileTree (rootPlace maxPath)

/-- The place that a name leads to from another. -/
def onward (here : Place) (n : String) : Place :=
  if n = ".." then (if here = rootPlace then here else here.dropLast) else here ++ [n]

/-- The places that names lead through from a place on, the last one left out. -/
def wayFrom (here : Place) : List String → List Place
  | [] => []
  | n :: ns => here :: wayFrom (onward here n) ns

namespace Path

/-- The place at which a path starts. -/
def start (p : Path) : Place :=
  match p.anchor with
  | .here => []
  | .named _ place => place
  | .root _ => rootPlace

/-- The place at which a path ends. -/
def place (p : Path) : Place := p.names.foldl onward p.start

/-- The places that a path leads through, its end left out. -/
def way (p : Path) : List Place := wayFrom p.start p.names

@[simp] theorem start_normalized (p : Path) (base : String) :
    (p.normalized base).start = p.start := by
  obtain ⟨anchor, names⟩ := p
  cases anchor <;> rfl

@[simp] theorem names_normalized (p : Path) (base : String) :
    (p.normalized base).names = collapse p.names := by
  obtain ⟨anchor, names⟩ := p
  cases anchor <;> rfl

end Path

/-! ## Places on the way -/

theorem wayFrom_concat (here : Place) (ns : List String) (n : String) :
    wayFrom here (ns ++ [n]) = wayFrom here ns ++ [ns.foldl onward here] := by
  induction ns generalizing here with
  | nil => rfl
  | cons m ns ih =>
    rw [List.cons_append, wayFrom, ih]
    rfl

theorem onward_prefix {here place : Place} {n : String} (h : place <+: onward here n) :
    place <+: here ∨ place = onward here n := by
  unfold onward at h ⊢
  split at h
  · left
    split at h
    · exact h
    · exact h.trans (List.dropLast_prefix here)
  · next hup =>
    rw [if_neg hup]
    rcases List.prefix_concat_iff.mp h with heq | hprefix
    · exact .inr heq
    · exact .inl hprefix

/-- To a place below another, names lead through that one unless they start below it as well. -/
theorem mem_wayFrom_of_prefix {here place q : Place} {names : List String}
    (hq : q ∈ wayFrom here names) (hbelow : place <+: q) :
    place <+: here ∨ place ∈ wayFrom here names := by
  induction names generalizing here with
  | nil => contradiction
  | cons n ns ih =>
    rw [wayFrom, List.mem_cons] at hq ⊢
    rcases hq with rfl | hq
    · exact .inl hbelow
    rcases ih hq with hprefix | hmem
    · rcases onward_prefix hprefix with hhere | rfl
      · exact .inl hhere
      · cases ns with
        | nil => contradiction
        | cons m ns => exact .inr (.inr List.mem_cons_self)
    · exact .inr (.inr hmem)

theorem Path.mem_way_of_prefix {p : Path} {place q : Place} (hq : q ∈ p.way) (hbelow : place <+: q)
    (hlong : p.start.length < place.length) : place ∈ p.way := by
  rcases mem_wayFrom_of_prefix hq hbelow with hprefix | hmem
  · exact absurd hprefix.length_le (Nat.not_le.mpr hlong)
  · exact hmem

/-! ## Without double dots -/

/-- No double dots are left in a path that is named from the root. -/
theorem Path.up_notMem_collapse (names : List String) : ".." ∉ collapse names := by
  have hfold : ∀ acc : List String, ".." ∉ acc →
      ".." ∉ names.foldl (fun acc n => if n = ".." then acc.drop 1 else n :: acc) acc := by
    induction names with
    | nil => exact fun acc hacc => hacc
    | cons n names ih =>
      intro acc hacc
      refine ih _ ?_
      simp only
      split
      · exact fun hmem => hacc (List.mem_of_mem_drop hmem)
      · next hup => exact List.not_mem_cons_of_ne_of_not_mem (Ne.symm hup) hacc
  rw [collapse, List.mem_reverse]
  exact hfold [] List.not_mem_nil

theorem foldl_onward_of_plain {names : List String} (hplain : ".." ∉ names) (here : Place) :
    names.foldl onward here = here ++ names := by
  induction names generalizing here with
  | nil => simp
  | cons n ns ih =>
    obtain ⟨hn, hns⟩ := List.ne_and_not_mem_of_not_mem_cons hplain
    rw [List.foldl_cons, ih hns, onward, if_neg (Ne.symm hn), List.append_assoc,
      List.singleton_append]

theorem Path.place_of_plain {p : Path} (hplain : ".." ∉ p.names) : p.place = p.start ++ p.names :=
  foldl_onward_of_plain hplain p.start

/-- Without double dots, every place on the way is shorter than the one at its end. -/
theorem length_lt_of_mem_wayFrom {names : List String} (hplain : ".." ∉ names) {here q : Place}
    (hq : q ∈ wayFrom here names) : q.length < (here ++ names).length := by
  induction names generalizing here with
  | nil => contradiction
  | cons n ns ih =>
    obtain ⟨hn, hns⟩ := List.ne_and_not_mem_of_not_mem_cons hplain
    rw [wayFrom, List.mem_cons, onward, if_neg (Ne.symm hn)] at hq
    rcases hq with rfl | hq
    · simp
    · have hlater := ih hns hq
      rwa [List.append_assoc] at hlater

theorem Path.length_lt_of_mem_way {p : Path} (hplain : ".." ∉ p.names) {q : Place}
    (hq : q ∈ p.way) : q.length < p.place.length := by
  rw [place_of_plain hplain]
  exact length_lt_of_mem_wayFrom hplain hq

/-! ## The directory of a path -/

theorem exists_intercalate_eq (sep : String) (names : List String) :
    ∃ more, sep.intercalate names = sep.intercalate names.dropLast ++ more := by
  induction names with
  | nil => exact ⟨"", rfl⟩
  | cons n names ih =>
    cases names with
    | nil => exact ⟨n, by simp⟩
    | cons m names =>
      obtain ⟨more, hmore⟩ := ih
      rw [String.intercalate_cons_cons, List.dropLast_cons_cons, hmore]
      cases (m :: names).dropLast with
      | nil => exact ⟨sep ++ more, by simp [String.append_assoc]⟩
      | cons k ks =>
        exact ⟨more, by rw [String.intercalate_cons_cons]; exact String.append_assoc.symm⟩

namespace Path

variable {p : Path}

theorem exists_names_eq_concat (hnames : p.names ≠ []) :
    ∃ n, p.names = p.parent.names ++ [n] :=
  ⟨p.names.getLast hnames, (List.dropLast_concat_getLast hnames).symm⟩

/-- A path leads through its directory, and to that place as the path of the directory does. -/
theorem way_eq (hnames : p.names ≠ []) : p.way = p.parent.way ++ [p.parent.place] := by
  obtain ⟨n, hn⟩ := exists_names_eq_concat hnames
  rw [way, hn, wayFrom_concat]
  rfl

theorem start_mem_way (hnames : p.names ≠ []) : p.start ∈ p.way := by
  obtain ⟨n, ns, hcons⟩ := List.exists_cons_of_ne_nil hnames
  rw [way, hcons]
  exact List.mem_cons_self

/-- The text of a path goes on from that of its directory, unless this is a single dot. -/
theorem text_parent (p : Path) : p.parent.text = "." ∨ ∃ more, p.text = p.parent.text ++ more := by
  obtain ⟨anchor, names⟩ := p
  obtain ⟨more, hmore⟩ := exists_intercalate_eq "/" names
  by_cases hnames : names = []
  · exact .inr ⟨"", by simp [hnames, parent]⟩
  have hall : names.isEmpty = false := by simp [hnames]
  unfold text parent
  cases anchor with
  | here =>
    dsimp only
    by_cases hrest : names.dropLast.isEmpty = true
    · exact .inl (if_pos hrest)
    · right
      rw [if_neg hrest, hall]
      exact ⟨more, hmore⟩
  | root slashes => exact .inr ⟨more, by simp only [hmore, String.append_assoc]⟩
  | named absolute place =>
    right
    dsimp only
    rw [hall]
    by_cases hrest : names.dropLast.isEmpty = true
    · rw [if_pos hrest]
      exact ⟨"/" ++ "/".intercalate names, String.append_assoc⟩
    · rw [if_neg hrest]
      exact ⟨more, by simp only [Bool.false_eq_true, if_false, hmore, String.append_assoc]⟩

theorem size_text_parent (hsize : p.text.utf8ByteSize ≤ maxPath) :
    p.parent.text.utf8ByteSize ≤ maxPath := by
  rcases text_parent p with hdot | ⟨more, hmore⟩
  · rw [hdot]
    decide
  · rw [hmore, String.utf8ByteSize_append] at hsize
    omega

theorem hasNull_parent (hnull : FileTree.hasNull p = false) :
    FileTree.hasNull p.parent = false := by
  rcases text_parent p with hdot | ⟨more, hmore⟩
  · rw [FileTree.hasNull, hdot]
    decide
  · rw [FileTree.hasNull, hmore, String.toList_append] at hnull
    simp only [List.contains_eq_mem, List.mem_append, decide_eq_false_iff_not, not_or] at hnull
    simpa [FileTree.hasNull] using hnull.1

end Path

/-! ## Following names -/

namespace FileTree

variable {t t' : FileTree} {p : Path} {here place q : Place} {names : List String}

theorem resolve_eq (t : FileTree) (p : Path) :
    t.resolve p =
      if maxPath < p.text.utf8ByteSize then .error .nameTooLong else t.walk p.start p.names := by
  obtain ⟨anchor, names⟩ := p
  cases anchor <;> rfl

/-- One name can be followed from a directory only, and then in any file tree that has a directory
there. -/
theorem walk_cons_ok {n : String} (h : t.walk here (n :: names) = .ok place) :
    t.node? here = some .directory ∧ t.walk (onward here n) names = .ok place ∧
      ∀ t' : FileTree, t'.node? here = some .directory →
        t'.walk here (n :: names) = t'.walk (onward here n) names := by
  -- what one name does from a directory, whichever file tree that is in
  have hother : ∀ t' : FileTree, t'.node? here = some .directory →
      t'.walk here (n :: names) =
        if n = ".." then
          if here = [] then .error .notFound
          else t'.walk (if here = rootPlace then here else here.dropLast) names
        else if maxName < n.utf8ByteSize then .error .nameTooLong
        else t'.walk (here ++ [n]) names := by
    intro t' hhere
    rw [walk, hhere]
  have hhere : t.node? here = some .directory := by
    unfold walk at h
    split at h
    · contradiction
    · contradiction
    · assumption
  rw [hother t hhere] at h
  unfold onward
  by_cases hup : n = ".."
  · rw [if_pos hup] at h ⊢
    by_cases hroot : here = []
    · rw [if_pos hroot] at h
      contradiction
    · rw [if_neg hroot] at h
      refine ⟨hhere, h, fun t' hhere' => ?_⟩
      rw [hother t' hhere', if_pos hup, if_neg hroot]
  · rw [if_neg hup] at h ⊢
    by_cases hlong : maxName < n.utf8ByteSize
    · rw [if_pos hlong] at h
      contradiction
    · rw [if_neg hlong] at h
      refine ⟨hhere, h, fun t' hhere' => ?_⟩
      rw [hother t' hhere', if_neg hup, if_neg hlong]

/-- Where names lead, there they lead through directories, and in any file tree that has these. -/
theorem walk_ok (h : t.walk here names = .ok place) :
    place = names.foldl onward here ∧
      (∀ q ∈ wayFrom here names, t.node? q = some .directory) ∧
      ∀ t' : FileTree, (∀ q ∈ wayFrom here names, t'.node? q = some .directory) →
        t'.walk here names = .ok place := by
  induction names generalizing here with
  | nil =>
    obtain rfl := Except.ok.inj h
    exact ⟨rfl, fun q hq => absurd hq List.not_mem_nil, fun _ _ => rfl⟩
  | cons n ns ih =>
    obtain ⟨hhere, hrest, hother⟩ := walk_cons_ok h
    obtain ⟨hplace, hway, hstays⟩ := ih hrest
    refine ⟨hplace, List.forall_mem_cons.mpr ⟨hhere, hway⟩, fun t' hdirectories => ?_⟩
    obtain ⟨hhere', hway'⟩ := List.forall_mem_cons.mp hdirectories
    rw [hother t' hhere']
    exact hstays t' hway'

theorem walk_of_resolve (h : t.resolve p = .ok place) :
    p.text.utf8ByteSize ≤ maxPath ∧ t.walk p.start p.names = .ok place := by
  rw [resolve_eq] at h
  split at h
  · contradiction
  · exact ⟨Nat.not_lt.mp ‹_›, h⟩

theorem resolve_of_walk (hsize : p.text.utf8ByteSize ≤ maxPath)
    (h : t.walk p.start p.names = .ok place) : t.resolve p = .ok place := by
  rw [resolve_eq, if_neg (Nat.not_lt.mpr hsize), h]

/-- Where a path leads to is told by its names. -/
theorem eq_place_of_resolve (h : t.resolve p = .ok place) : place = p.place :=
  (walk_ok (walk_of_resolve h).2).1

/-- A path that leads somewhere leads through directories. -/
theorem node?_of_mem_way (h : t.resolve p = .ok place) (hq : q ∈ p.way) :
    t.node? q = some .directory :=
  (walk_ok (walk_of_resolve h).2).2.1 q hq

/-- **A path that leads somewhere** leads there in any file tree that has directories on its way. -/
theorem resolve_of_way (h : t.resolve p = .ok place)
    (hway : ∀ q ∈ p.way, t'.node? q = some .directory) : t'.resolve p = .ok place := by
  obtain ⟨hsize, hwalk⟩ := walk_of_resolve h
  exact resolve_of_walk hsize ((walk_ok hwalk).2.2 t' hway)

theorem walk_append (t : FileTree) (here : Place) (names more : List String) :
    t.walk here (names ++ more) = t.walk here names >>= fun place => t.walk place more := by
  induction names generalizing here with
  | nil => rfl
  | cons n ns ih =>
    rw [List.cons_append, walk, walk]
    split
    · rfl
    · rfl
    split
    · split
      · rfl
      · exact ih _
    split
    · rfl
    · exact ih _

/-- An operation that succeeds has been taken to the place of a path. -/
theorem atPlace_ok {α : Type} {f : Place → Except FileError α} {a : α}
    (h : t.atPlace p f = .ok a) :
    hasNull p = false ∧ t.resolve p = .ok p.place ∧ f p.place = .ok a := by
  unfold atPlace refuse at h
  split at h
  · contradiction
  next hnull =>
  split at h
  · contradiction
  next hresolve =>
  obtain rfl := eq_place_of_resolve hresolve
  split at h
  · next b hb =>
    obtain rfl := Except.ok.inj h
    exact ⟨by simpa using hnull, hresolve, hb⟩
  · contradiction

theorem isDirectory_iff : t.isDirectory p = true ↔
    t.resolve p = .ok p.place ∧ t.node? p.place = some .directory := by
  unfold isDirectory
  cases hresolve : t.resolve p with
  | error e => simp
  | ok place =>
    obtain rfl := eq_place_of_resolve hresolve
    simp

/-- **What lies in a directory** can be reached through that directory only. -/
theorem isDirectory_parent_of_resolve (h : t.resolve p = .ok place) (hnames : p.names ≠ []) :
    t.isDirectory p.parent = true := by
  obtain ⟨hsize, hwalk⟩ := walk_of_resolve h
  obtain ⟨n, hn⟩ := Path.exists_names_eq_concat hnames
  rw [hn, walk_append] at hwalk
  obtain ⟨directory, hparent, hlast⟩ := exists_of_bind_ok hwalk
  have hresolve := resolve_of_walk (Path.size_text_parent hsize) hparent
  obtain rfl := eq_place_of_resolve hresolve
  exact isDirectory_iff.mpr ⟨hresolve, (walk_cons_ok hlast).1⟩

/-- The way to what lies in a directory is made of directories. -/
theorem node?_of_isDirectory_parent (h : t.isDirectory p.parent = true) (hnames : p.names ≠ [])
    (hq : q ∈ p.way) : t.node? q = some .directory := by
  obtain ⟨hresolve, hdirectory⟩ := isDirectory_iff.mp h
  rw [Path.way_eq hnames, List.mem_append, List.mem_singleton] at hq
  rcases hq with hq | rfl
  · exact node?_of_mem_way hresolve hq
  · exact hdirectory

/-- **The directory of a path** is one in any file tree that has directories on its way. -/
theorem isDirectory_parent_of_way (h : t.isDirectory p.parent = true) (hnames : p.names ≠ [])
    (hway : ∀ q ∈ p.way, t'.node? q = some .directory) : t'.isDirectory p.parent = true := by
  obtain ⟨hresolve, -⟩ := isDirectory_iff.mp h
  rw [Path.way_eq hnames, List.forall_mem_append, List.forall_mem_singleton] at hway
  exact isDirectory_iff.mpr ⟨resolve_of_way hresolve hway.1, hway.2⟩

/-- A path to a directory starts at a directory. -/
theorem node?_start_of_isDirectory (h : t.isDirectory p = true) :
    t.node? p.start = some .directory := by
  obtain ⟨hresolve, hdirectory⟩ := isDirectory_iff.mp h
  by_cases hnames : p.names = []
  · rwa [Path.place, hnames] at hdirectory
  · exact node?_of_mem_way hresolve (Path.start_mem_way hnames)

end FileTree

end PropertyFilter
