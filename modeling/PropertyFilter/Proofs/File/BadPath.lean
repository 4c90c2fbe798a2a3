import PropertyFilter.Proofs.File.PathText
import PropertyFilter.Proofs.File.Roots

/-!
# Paths without null characters

A path that is read from a text without null characters has none, and neither have the paths that
are made from it on the way to opening a file. So opening a log file fails on such a path only where
the file system refuses it.

## Main definitions

* `NoNull s`: `s` has no null character

## Main results

* `Path.Over.hasNull`: such a path is a path
* `FileTree.makeDirectoriesFuel_ne_badPath`, `FileLog.start_ne_badPath`: no operation fails on it
  as on no path
-/

namespace PropertyFilter

/-- A text without null characters. -/
abbrev NoNull (s : String) : Prop := TextOver (· ≠ '\x00') s

/-- A path without null characters is a path. -/
theorem Path.Over.hasNull {p : Path} (hp : p.Over (· ≠ '\x00')) : FileTree.hasNull p = false := by
  simp only [FileTree.hasNull, List.contains_eq_mem, decide_eq_false_iff_not]
  exact fun hmem => hp.text (by decide) (by decide) _ hmem rfl

namespace FileTree

variable {t t' : FileTree} {p : Path}

theorem atPlace_ne_badPath {α : Type} (hp : p.Over (· ≠ '\x00')) (f : Place → Except FileError α) :
    t.atPlace p f ≠ .error .badPath := by
  unfold atPlace refuse
  rw [hp.hasNull]
  simp only [Bool.false_eq_true, if_false]
  split
  · simp
  · split <;> simp

theorem makeDirectoriesFuel_ne_badPath (hp : p.Over (· ≠ '\x00')) (fuel : Nat) :
    (makeDirectoriesFuel fuel t p).2 ≠ .error .badPath := by
  fun_induction makeDirectoriesFuel fuel t p with
  | case2 _ _ _ hbad => exact absurd hbad (atPlace_ne_badPath hp _)
  | case5 _ _ _ _ _ _ _ _ e hparent ih =>
    rintro ⟨⟩
    exact ih hp.parent (congrArg Prod.snd hparent)
  | case7 _ _ _ _ _ _ _ _ _ e hmake =>
    split
    · simp
    · rintro ⟨⟩
      exact atPlace_ne_badPath hp _ hmake
  | case8 =>
    split <;> simp
  | _ => simp

end FileTree

/-- An operation on a path fails only if it is refused. -/
theorem FileFault.exists_refused {α : Type} {x : Except FileFault α} (hpath : x ≠ .error .badPath)
    (hok : x.isOk = false) : ∃ f, x = .error (.refused f) := by
  cases x with
  | ok a => contradiction
  | error e =>
    cases e with
    | refused f => exact ⟨f, rfl⟩
    | badPath => contradiction

/-- **Opening a log file** at a path without null characters is at most refused. -/
theorem FileLog.start_ne_badPath {t : FileTree} {path : String} (hpath : NoNull path)
    (hbase : NoNull t.base) (maxBytes backups : Int) :
    (start t path maxBytes backups).2 ≠ .error .badPath := by
  have hp := Path.over_ofText hpath
  have hdirectories := FileTree.makeDirectoriesFuel_ne_badPath (t := t) hp.parent
    (Path.ofText path).parent.names.length
  have hroots := FileTree.SameRoots.makeDirectories t (Path.ofText path).parent
  unfold start
  simp only
  rw [← FileTree.makeDirectories] at hdirectories
  generalize t.makeDirectories (Path.ofText path).parent = directories at hdirectories hroots ⊢
  obtain ⟨t', made⟩ := directories
  cases made with
  | error e =>
    rintro ⟨⟩
    exact hdirectories rfl
  | ok _ =>
    have hbase' : NoNull t'.base := by rwa [hroots.base]
    simp only
    split
    · next e hopen =>
      rintro ⟨⟩
      exact FileTree.atPlace_ne_badPath (hp.normalized hbase') _ hopen
    · simp

end PropertyFilter
