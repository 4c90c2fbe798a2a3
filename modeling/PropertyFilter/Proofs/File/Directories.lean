import PropertyFilter.Proofs.File.Moves

/-!
# Making directories again

Making a directory that has been made, or was there, changes nothing more. Where it cannot be made,
directories on the way may stay behind, but it still cannot be made.

## Main results

* `FileTree.makeDirectories_ok`: a directory that has been made is there and can be made again
* `FileTree.makeDirectories_error`: what could not be made cannot be made afterwards
-/

namespace PropertyFilter

namespace FileTree

variable {t t' : FileTree} {p : Path} {fuel : Nat}

/-- A directory that is made was not there, and stands where its path leads. -/
theorem makeDirectory_ok (h : t.makeDirectory p = .ok t') :
    hasNull p = false ∧ t.resolve p = .ok p.place ∧ t.node? p.place = none ∧
      t' = t.set p.place .directory := by
  obtain ⟨hnull, hresolve, hmade⟩ := atPlace_ok h
  split at hmade
  · contradiction
  next hnone =>
  split at hmade
  · contradiction
  · exact ⟨hnull, hresolve, hnone, (Except.ok.inj hmade).symm⟩

theorem isDirectory_of_makeDirectory (h : t.makeDirectory p = .ok t') :
    t'.isDirectory p = true := by
  obtain ⟨-, hresolve, hnone, rfl⟩ := makeDirectory_ok h
  refine isDirectory_iff.mpr ⟨resolve_of_way hresolve fun q hq => ?_,
    node?_set_self _ _ (ne_nil_of_node?_eq_none hnone)⟩
  have hdirectory := node?_of_mem_way hresolve hq
  have hne : q ≠ p.place := fun heq => by
    rw [heq, hnone] at hdirectory
    contradiction
  rw [node?_set_of_ne hne, hdirectory]

/-- A directory that has been made is there. -/
theorem isDirectory_of_makeDirectoriesFuel (fuel : Nat) (t : FileTree) (p : Path) :
    (makeDirectoriesFuel fuel t p).2 = .ok () →
      (makeDirectoriesFuel fuel t p).1.isDirectory p = true := by
  fun_induction makeDirectoriesFuel fuel t p with
  | case1 _ _ _ _ hmake => exact fun _ => isDirectory_of_makeDirectory hmake
  | case6 _ _ _ _ _ _ _ _ _ _ hmake => exact fun _ => isDirectory_of_makeDirectory hmake
  | case7 | case8 =>
    dsimp only
    split
    · exact fun _ => ‹_›
    · intro h
      contradiction
  | _ =>
    intro h
    contradiction

theorem hasNull_of_makeDirectoriesFuel (fuel : Nat) (t : FileTree) (p : Path) :
    (makeDirectoriesFuel fuel t p).2 = .ok () → hasNull p = false := by
  intro h
  cases hnull : hasNull p with
  | false => rfl
  | true =>
    have hbad : t.makeDirectory p = .error .badPath := by rw [makeDirectory, atPlace, if_pos hnull]
    cases fuel <;> simp [makeDirectoriesFuel, hbad] at h

/-- A directory that is there is left as it is. -/
theorem makeDirectoriesFuel_of_isDirectory (fuel : Nat) (hnull : hasNull p = false)
    (h : t.isDirectory p = true) : makeDirectoriesFuel fuel t p = (t, .ok ()) := by
  obtain ⟨hresolve, hdirectory⟩ := isDirectory_iff.mp h
  have hthere : t.makeDirectory p = refuse .alreadyThere p := by
    rw [makeDirectory, atPlace, hnull, hresolve]
    simp only [Bool.false_eq_true, if_false, hdirectory]
  cases fuel <;> simp [makeDirectoriesFuel, hthere, refuse, h]

/-- A directory that can be made is made in one that can. -/
theorem makeDirectoriesFuel_parent (hnames : p.names ≠ []) :
    (makeDirectoriesFuel (fuel + 1) t p).2 = .ok () →
      (makeDirectoriesFuel fuel t p.parent).2 = .ok () := by
  intro h
  have hnull := Path.hasNull_parent (hasNull_of_makeDirectoriesFuel _ t p h)
  have hthere : ∀ place, t.resolve p = .ok place →
      (makeDirectoriesFuel fuel t p.parent).2 = .ok () := by
    intro place hresolve
    rw [makeDirectoriesFuel_of_isDirectory fuel hnull
      (isDirectory_parent_of_resolve hresolve hnames)]
  revert h
  generalize hfuel : fuel + 1 = fuel'
  fun_cases makeDirectoriesFuel fuel' t p
  case case1 hmake => exact fun _ => hthere _ (makeDirectory_ok hmake).2.1
  case case6 hparent | case7 hparent =>
    obtain rfl := Nat.succ.inj hfuel
    exact fun _ => congrArg Prod.snd hparent
  case case8 =>
    dsimp only
    split
    · next hdirectory => exact fun _ => hthere _ (isDirectory_iff.mp hdirectory).1
    · intro h
      contradiction
  all_goals
    intro h
    contradiction

/-- What could not be made cannot be made afterwards, though directories on the way may stay. -/
theorem makeDirectoriesFuel_failed (fuel : Nat) (t : FileTree) (p : Path) :
    (makeDirectoriesFuel fuel t p).2 ≠ .ok () →
      (makeDirectoriesFuel fuel (makeDirectoriesFuel fuel t p).1 p).2 ≠ .ok () := by
  -- by induction on the directories on the way: unless one of them is made, nothing changes
  fun_induction makeDirectoriesFuel fuel t p with
  | case1 | case6 => exact fun h => absurd rfl h
  | case2 fuel t p hmake => cases fuel <;> simp [makeDirectoriesFuel, hmake]
  | case3 t p f hmake hnotFound => simp [makeDirectoriesFuel, hmake, hnotFound]
  | case4 t p f hmake hnotFound fuel hnames =>
    simp [makeDirectoriesFuel, hmake, hnotFound, hnames]
  | case5 t p f hmake hnotFound fuel hnames t' e hparent ih =>
    rw [hparent] at ih
    exact fun _ => mt (makeDirectoriesFuel_parent hnames) (ih (by simp))
  | case7 t p f hmake hnotFound fuel hnames t' hparent e hmake' ih =>
    have hnull := hasNull_of_makeDirectoriesFuel fuel t p.parent (congrArg Prod.snd hparent)
    have hthere := isDirectory_of_makeDirectoriesFuel fuel t p.parent (congrArg Prod.snd hparent)
    rw [hparent] at hthere
    have hagain := makeDirectoriesFuel_of_isDirectory fuel hnull hthere
    intro h
    have hdirectory : t'.isDirectory p = false :=
      Bool.eq_false_iff.mpr fun hdirectory => h (by simp [hdirectory])
    cases e with
    | badPath => simp [makeDirectoriesFuel, hmake']
    | refused f' =>
      by_cases hnotFound' : f'.error = .notFound <;>
        simp [makeDirectoriesFuel, hmake', hnotFound', hnames, hagain, hdirectory]
  | case8 fuel t p f hmake hfound =>
    intro h
    have hdirectory : t.isDirectory p = false :=
      Bool.eq_false_iff.mpr fun hdirectory => h (by simp [hdirectory])
    cases fuel <;> simp [makeDirectoriesFuel, hmake, hfound, hdirectory]

/-- **A directory that has been made** is there, and where it is there it is left as it is. -/
theorem makeDirectories_ok (h : t.makeDirectories p = (t', .ok ())) :
    t'.isDirectory p = true ∧
      ∀ t'' : FileTree, t''.isDirectory p = true → t''.makeDirectories p = (t'', .ok ()) := by
  have hmade : (makeDirectoriesFuel p.names.length t p).2 = .ok () := congrArg Prod.snd h
  have hnull := hasNull_of_makeDirectoriesFuel _ t p hmade
  have hthere := isDirectory_of_makeDirectoriesFuel _ t p hmade
  rw [← makeDirectories, h] at hthere
  exact ⟨hthere, fun t'' h'' => makeDirectoriesFuel_of_isDirectory _ hnull h''⟩

/-- **What could not be made** cannot be made afterwards. -/
theorem makeDirectories_error {e : FileFault} (h : t.makeDirectories p = (t', .error e)) :
    ∃ t'' e', t'.makeDirectories p = (t'', .error e') := by
  have hfailed := makeDirectoriesFuel_failed p.names.length t p
  rw [← makeDirectories, h] at hfailed
  cases hagain : t'.makeDirectories p with
  | mk t'' made =>
    cases made with
    | ok _ => exact absurd (congrArg Prod.snd hagain) (hfailed (by simp))
    | error e' => exact ⟨t'', e', rfl⟩

end FileTree

end PropertyFilter
