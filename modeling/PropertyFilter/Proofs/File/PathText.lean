import PropertyFilter.File.Tree
import PropertyFilter.Proofs.Text.Inertness

/-!
# Characters of paths

A path that is read from a text is made of the characters of the text, and so are the paths that are
made from it, apart from the directories that they are put below.

## Main definitions

* `Path.Over P p`: every character of the names in a path satisfies `P`
* `FileTree.HomesOver P t`: every character of the home directories satisfies `P`

## Main results

* `Path.over_ofText`, `Path.Over.text`: paths, read and written
* `Path.Over.parent`, `Path.Over.normalized`, `Path.Over.expandHome`: paths made from paths
* `FileFailure.inert_message`: paths in reports on failures
-/

namespace PropertyFilter

variable {P : Char → Prop}

/-- Every character of the text with which a path starts satisfies `P`. -/
def Anchor.Over (P : Char → Prop) : Anchor → Prop
  | .here => True
  | .root slashes => TextOver P slashes
  | .named absolute _ => TextOver P absolute

namespace Path

/-- Every character of the names in a path satisfies `P`. -/
structure Over (P : Char → Prop) (p : Path) : Prop where
  anchor : p.anchor.Over P
  names : ∀ n ∈ p.names, TextOver P n

theorem over_anchorOf {cs : List Char} (h : ∀ c ∈ cs, P c) : (anchorOf cs).Over P := by
  unfold anchorOf
  split <;> simp_all [Anchor.Over, TextOver]

/-- A path is made of the characters of its text. -/
theorem over_ofText {s : String} (hs : TextOver P s) : (ofText s).Over P := by
  refine ⟨over_anchorOf hs, fun n hn => ?_⟩
  obtain ⟨hn, -⟩ := List.mem_filter.mp hn
  obtain ⟨field, hfield, rfl⟩ := List.mem_map.mp hn
  exact textOver_ofList.mpr fun c hc => hs c (Text.mem_and_ne_of_mem_fields hfield hc).1

/-- The names that are left are names of the path. -/
theorem mem_of_mem_collapse {names : List String} {n : String} (h : n ∈ collapse names) :
    n ∈ names := by
  -- the stack holds names of the path at any time
  have hfold : ∀ acc : List String,
      n ∈ names.foldl (fun acc n => if n = ".." then acc.drop 1 else n :: acc) acc →
      n ∈ acc ∨ n ∈ names := by
    clear h
    induction names with
    | nil => exact fun acc hn => .inl hn
    | cons m names ih =>
      intro acc hn
      rcases ih _ hn with hacc | hnames
      · simp only at hacc
        split at hacc
        · exact .inl (List.mem_of_mem_drop hacc)
        · rcases List.mem_cons.mp hacc with rfl | hacc
          · exact .inr List.mem_cons_self
          · exact .inl hacc
      · exact .inr (List.mem_cons_of_mem m hnames)
  have := hfold [] (List.mem_reverse.mp h)
  simpa using this

/-- What a name ends in is made of its characters. -/
theorem over_suffixOf {n : String} (hn : TextOver P n) (hdot : P '.') :
    TextOver P (suffixOf n) := by
  unfold suffixOf
  simp only
  split
  · split
    · simp [TextOver]
    · rw [textOver_ofList, List.forall_mem_cons]
      refine ⟨hdot, fun c hc => hn c ?_⟩
      have hmem := (List.takeWhile_sublist _).subset (List.mem_reverse.mp hc)
      exact List.mem_reverse.mp hmem
  · simp [TextOver]

namespace Over

variable {p : Path}

theorem parent (hp : p.Over P) : p.parent.Over P :=
  ⟨hp.anchor, fun n hn => hp.names n ((List.dropLast_sublist _).subset hn)⟩

theorem normalized (hp : p.Over P) {base : String} (hbase : TextOver P base) :
    (p.normalized base).Over P := by
  unfold Path.normalized
  split
  · exact ⟨hbase, fun n hn => hp.names n (mem_of_mem_collapse hn)⟩
  · exact ⟨hp.anchor, fun n hn => hp.names n (mem_of_mem_collapse hn)⟩

/-- A path with a home directory in place of a tilde and a user. -/
theorem expandHome (hp : p.Over P) {home? : String → Option Path}
    (hhome : ∀ user h, home? user = some h → h.Over P) {q : Path}
    (h : p.expandHome home? = .ok q) : q.Over P := by
  unfold Path.expandHome at h
  split at h
  · next n ns _ hnames =>
    split at h
    · split at h
      · contradiction
      split at h
      · next home hfound =>
        obtain rfl := Except.ok.inj h
        have hdirectory := hhome _ home hfound
        refine ⟨hdirectory.anchor, fun m hm => ?_⟩
        rcases List.mem_append.mp hm with hm | hm
        · exact hdirectory.names m hm
        · exact hp.names m (hnames ▸ List.mem_cons_of_mem n hm)
      · contradiction
    · exact Except.ok.inj h ▸ hp
  · exact Except.ok.inj h ▸ hp

theorem name (hp : p.Over P) : TextOver P p.name := by
  unfold Path.name
  cases hnames : p.names with
  | nil => simp [TextOver]
  | cons n ns =>
    rw [List.getLastD_cons]
    exact hp.names _ (hnames ▸ List.getLastD_mem_cons)

theorem suffix (hp : p.Over P) (hdot : P '.') : TextOver P p.suffix := over_suffixOf hp.name hdot

/-- The text of a path is made of its characters, and of slashes and dots. -/
theorem text (hp : p.Over P) (hslash : P '/') (hdot : P '.') : TextOver P p.text := by
  have hslash : TextOver P "/" := by simpa [TextOver] using hslash
  have hnames := TextOver.intercalate hslash hp.names
  have hanchor := hp.anchor
  unfold Path.text
  simp only
  split
  · split
    · simpa [TextOver] using hdot
    · exact hnames
  · next slashes hroot =>
    rw [hroot] at hanchor
    exact TextOver.append hanchor hnames
  · next absolute _ hnamed =>
    rw [hnamed] at hanchor
    split
    · exact hanchor
    · exact (TextOver.append hanchor hslash).append hnames

end Over

end Path

/-- Every character of the home directories satisfies `P`. -/
def FileTree.HomesOver (P : Char → Prop) (t : FileTree) : Prop :=
  ∀ user home, t.home? user = some home → home.Over P

/-- The path at which a failure arose is quoted. -/
theorem FileFailure.inert_message (f : FileFailure) : TextOver Terminal.Inert f.message := by
  have hnumber : TextOver Terminal.Inert ("[Errno " ++ toString f.error.number ++ "] " ++
      f.error.description ++ ": ") := by
    cases f.error <;> decide
  exact hnumber.append (Text.inert_quoted f.path)

end PropertyFilter
