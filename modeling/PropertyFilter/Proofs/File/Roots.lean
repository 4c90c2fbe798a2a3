import PropertyFilter.Proofs.File.Walks
import PropertyFilter.Proofs.Log.Keeping

/-!
# What changes to files leave

Operations on files change what stands where, and contents. The working directory and the home
directories stay the same. Writing at the end of a file changes what is read from that file only.

## Main definitions

* `FileTree.SameRoots t t'`: these directories are the same in two file trees

## Main results

* `FileTree.SameRoots.makeDirectories`, `FileTree.SameRoots.of_openAppend`: opening files
* `FileLog.sameRoots_start`, `FileLog.keeps_sameRoots`: log files
* `FileTree.read_appendTo`: what is read from other files
-/

namespace PropertyFilter

namespace FileTree

/-- The working directory and the home directories are the same. -/
structure SameRoots (t t' : FileTree) : Prop where
  base : t'.base = t.base
  homes : t'.homes = t.homes

variable {t t' t'' : FileTree} {p source target : Path}

namespace SameRoots

theorem refl (t : FileTree) : SameRoots t t := ⟨rfl, rfl⟩

theorem trans (h : SameRoots t t') (h' : SameRoots t' t'') : SameRoots t t'' :=
  ⟨h'.base.trans h.base, h'.homes.trans h.homes⟩

theorem home? (h : SameRoots t t') : t'.home? = t.home? := by
  funext user
  rw [FileTree.home?, FileTree.home?, h.homes]

theorem of_makeDirectory (h : t.makeDirectory p = .ok t') : SameRoots t t' := by
  obtain ⟨-, -, h⟩ := atPlace_ok h
  split at h
  · contradiction
  split at h
  · contradiction
  · obtain rfl := Except.ok.inj h
    exact ⟨rfl, rfl⟩

theorem makeDirectoriesFuel (fuel : Nat) (t : FileTree) (p : Path) :
    SameRoots t (makeDirectoriesFuel fuel t p).1 := by
  fun_induction FileTree.makeDirectoriesFuel fuel t p with
  | case1 _ _ _ _ hmake => exact of_makeDirectory hmake
  | case5 _ _ _ _ _ _ _ _ _ hparent ih =>
    rw [hparent] at ih
    exact ih
  | case6 _ _ _ _ _ _ _ _ hparent _ hmake ih =>
    rw [hparent] at ih
    exact ih.trans (of_makeDirectory hmake)
  | case7 _ _ _ _ _ _ _ _ hparent _ _ ih =>
    rw [hparent] at ih
    exact ih
  | _ => exact refl _

theorem makeDirectories (t : FileTree) (p : Path) : SameRoots t (t.makeDirectories p).1 :=
  makeDirectoriesFuel _ t p

theorem of_openAppend {i : Nat} (h : t.openAppend p = .ok (t', i)) : SameRoots t t' := by
  obtain ⟨-, -, h⟩ := atPlace_ok h
  split at h
  · obtain ⟨rfl, -⟩ := Prod.mk.inj (Except.ok.inj h)
    exact refl t
  · contradiction
  · split at h
    · contradiction
    · obtain ⟨rfl, -⟩ := Prod.mk.inj (Except.ok.inj h)
      exact ⟨rfl, rfl⟩

theorem of_remove? (h : t.remove? p = some t') : SameRoots t t' := by
  unfold remove? at h
  split at h
  · exact Option.some.inj h ▸ refl t
  · split at h
    · exact Option.some.inj h ▸ refl t
    · obtain rfl := Option.some.inj h
      exact ⟨rfl, rfl⟩
    · contradiction

theorem move (t : FileTree) (source target : Path) : SameRoots t (t.move source target) := by
  unfold FileTree.move
  split
  · exact ⟨rfl, rfl⟩
  · exact refl t

theorem of_displace? (h : t.displace? source target = some t') : SameRoots t t' := by
  obtain ⟨t'', hremove, rfl⟩ := Option.map_eq_some_iff.mp h
  exact (of_remove? hremove).trans (move t'' source target)

end SameRoots

/-! ## Contents -/

variable {i : Nat}

theorem walk_appendTo (t : FileTree) (i : Nat) (bs : List UInt8) (here : Place)
    (names : List String) : (t.appendTo i bs).walk here names = t.walk here names := by
  have hnode : ∀ place, (t.appendTo i bs).node? place = t.node? place := fun _ => rfl
  induction names generalizing here with
  | nil => rfl
  | cons n names ih => simp only [walk, hnode, ih]

theorem resolve_appendTo (t : FileTree) (i : Nat) (bs : List UInt8) (p : Path) :
    (t.appendTo i bs).resolve p = t.resolve p := by
  simp only [resolve, walk_appendTo]

theorem content_appendTo_of_ne {j : Nat} (h : j ≠ i) (bs : List UInt8) :
    (t.appendTo i bs).content j = t.content j := by
  simp [content, appendTo, List.getElem?_set_ne (Ne.symm h)]

/-- A file grows by at most what is written to it. -/
theorem length_content_appendTo (t : FileTree) (i : Nat) (bs : List UInt8) :
    ((t.appendTo i bs).content i).length ≤ (t.content i).length + bs.length := by
  rw [content, appendTo, List.getD_eq_getElem?_getD, List.getElem?_set_self']
  cases t.contents[i]? <;> simp

/-- **Writing at the end of a file** leaves what is read at a path that does not lead to it. -/
theorem read_appendTo (h : ∀ place, t.resolve p = .ok place → t.fileAt place ≠ .ok i)
    (bs : List UInt8) : (t.appendTo i bs).read p = t.read p := by
  unfold read atPlace
  rw [resolve_appendTo]
  cases hresolve : t.resolve p with
  | error e => rfl
  | ok place =>
    have hfile : (t.appendTo i bs).fileAt place = t.fileAt place := rfl
    dsimp only
    rw [hfile]
    cases hcontent : t.fileAt place with
    | error e => rfl
    | ok j =>
      have hj : j ≠ i := fun hj => h place hresolve (hj ▸ hcontent)
      simp only [Except.map, content_appendTo_of_ne hj]

end FileTree

namespace FileLog

open FileTree (SameRoots)

variable (l : FileLog) (t : FileTree)

/-- Opening a log file. -/
theorem sameRoots_start (path : String) (maxBytes backups : Int) :
    SameRoots t (start t path maxBytes backups).1 := by
  have hmade := SameRoots.makeDirectories t (Path.ofText path).parent
  unfold start
  simp only
  generalize t.makeDirectories (Path.ofText path).parent = directories at hmade ⊢
  obtain ⟨t', made⟩ := directories
  cases made with
  | error e => exact hmade
  | ok _ =>
    simp only
    split
    · exact hmade
    · next hopen => exact hmade.trans (.of_openAppend hopen)

/-- **What a log file does to files** leaves both directories. -/
theorem keeps_sameRoots : l.Keeps (SameRoots t) where
  opened h hopen := h.trans (.of_openAppend hopen)
  appended _ _ h := h.trans ⟨rfl, rfl⟩
  moved _ _ h hmove := h.trans (.of_displace? hmove)
  shifted _ _ h hmove := h.trans (.of_displace? hmove)

end FileLog

end PropertyFilter
