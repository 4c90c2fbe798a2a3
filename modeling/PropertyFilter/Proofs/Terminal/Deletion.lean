import PropertyFilter.Terminal.Escape

/-!
# Deleting escape sequences

Every sequence that a deleting layer looks for has an escape character in it. A text without one
passes any number of layers as it is, and no layer fails on it. A layer fails on commands to set the
title only.

## Main definitions

* `Jams layers s`: a layer fails on a line

## Main results

* `deletePieces_of_plain`: one layer passes such a text on in one piece
* `deliver_of_plain`, `deliverLine_of_plain`: what arrives is what was written
* `fault_deliver`: how a layer fails
* `jams_one_iff`: on which lines a single layer fails
-/

namespace PropertyFilter.Terminal

variable {cs : List Char}

theorem esc_not_mem_skipHeading (h : esc ∉ cs) : esc ∉ (skipHeading cs).2 := by
  unfold skipHeading
  split
  · exact List.not_mem_of_not_mem_cons h
  · exact h

theorem controlLength?_of_plain (h : esc ∉ cs) : controlLength? cs = none := by
  have hplain := esc_not_mem_skipHeading h
  unfold controlLength?
  simp only
  split
  · next hcs =>
    rw [hcs] at hplain
    exact absurd List.mem_cons_self hplain
  · rfl

theorem commandLength?_of_plain (h : esc ∉ cs) : commandLength? cs = none := by
  have hplain := esc_not_mem_skipHeading h
  unfold commandLength?
  simp only
  split
  · next hcs =>
    rw [hcs] at hplain
    exact absurd List.mem_cons_self hplain
  · rfl

theorem piecesFrom_of_plain (h : esc ∉ cs) (piece : List Char) :
    piecesFrom 0 piece cs = [piece.reverse ++ cs] := by
  induction cs generalizing piece with
  | nil => simp [piecesFrom]
  | cons c cs ih =>
    rw [piecesFrom, controlLength?_of_plain h, ih (List.not_mem_of_not_mem_cons h)]
    simp

theorem commandsFrom_of_plain (h : esc ∉ cs) (n : Nat) : commandsFrom n 0 cs = [] := by
  induction cs generalizing n with
  | nil => simp [commandsFrom]
  | cons c cs ih =>
    rw [commandsFrom, commandLength?_of_plain h]
    exact ih (List.not_mem_of_not_mem_cons h) (n + 1)

/-- A layer passes a text without escape characters on in one piece, or in none if it is empty. -/
theorem deletePieces_of_plain (h : esc ∉ cs) :
    deletePieces cs = .ok ([cs].filter (!·.isEmpty)) := by
  simp [deletePieces, deleteCommands, commandsFrom_of_plain h, deleteFrom, plainPieces,
    piecesFrom_of_plain h]

theorem Delivery.all_singleton (d : Delivery) : Delivery.all [d] = d := by
  obtain ⟨arrived, _ | e⟩ := d <;> simp [Delivery.all, Delivery.andThen]

/-- **Text without escape characters arrives as it is**, behind any number of layers. -/
theorem deliver_of_plain (h : esc ∉ cs) (layers : Nat) : deliver layers cs = ⟨cs, none⟩ := by
  induction layers with
  | zero => rfl
  | succ n ih =>
    rw [deliver, deletePieces_of_plain h]
    cases cs with
    | nil => rfl
    | cons c cs => simp [ih, Delivery.all_singleton]

theorem deliverLine_of_plain {s : String} (h : esc ∉ s.toList) (layers : Nat) :
    deliverLine layers s = ⟨s.toList ++ ['\n'], none⟩ := by
  rw [deliverLine, deliver_of_plain h, deliver_of_plain (by decide)]
  rfl

/-! ## Failures -/

/-- A layer fails on a line. -/
def Jams (layers : Nat) (s : String) : Prop := (deliverLine layers s).fault ≠ none

theorem not_jams_of_plain {s : String} (h : esc ∉ s.toList) (layers : Nat) : ¬ Jams layers s := by
  rw [Jams, deliverLine_of_plain h]
  simp

/-- Commands are deleted one after the other, up to one that sets the title. -/
theorem deleteFrom_eq_error_iff {commands : List Command} {e : Fault} :
    deleteFrom cs commands = .error e ↔
      e = .noSuchOperation ∧ ∃ c ∈ commands, c.setsTitle = true := by
  induction commands generalizing cs with
  | nil => simp [deleteFrom]
  | cons c commands ih =>
    rw [deleteFrom]
    split
    · next hc =>
      rw [Except.error.injEq, and_iff_left ⟨c, List.mem_cons_self, hc⟩]
      exact eq_comm
    · next hc => simp [ih, hc]

theorem Delivery.fault_all {ds : List Delivery} {e : Fault} (h : (Delivery.all ds).fault = some e) :
    ∃ d ∈ ds, d.fault = some e := by
  induction ds with
  | nil => contradiction
  | cons d ds ih =>
    rw [Delivery.all, List.foldr_cons, Delivery.andThen] at h
    split at h
    · next e' hd => exact ⟨d, List.mem_cons_self, hd.trans h⟩
    · obtain ⟨d', hd', he⟩ := ih h
      exact ⟨d', List.mem_cons_of_mem d hd', he⟩

/-- **A layer fails in one way only.** -/
theorem fault_deliver {layers : Nat} {e : Fault} (h : (deliver layers cs).fault = some e) :
    e = .noSuchOperation := by
  induction layers generalizing cs with
  | zero => contradiction
  | succ n ih =>
    rw [deliver] at h
    split at h
    · next e' he =>
      obtain rfl := Option.some.inj h
      unfold deletePieces deleteCommands at he
      split at he
      · contradiction
      · next e'' hcommands =>
        obtain rfl := Except.error.inj he
        exact (deleteFrom_eq_error_iff.mp hcommands).1
    · next pieces _ =>
      obtain ⟨d, hd, he⟩ := Delivery.fault_all h
      obtain ⟨piece, -, rfl⟩ := List.mem_map.mp hd
      exact ih he

/-- The line break behind a text is no reason to fail. -/
theorem fault_deliverLine (layers : Nat) (s : String) :
    (deliverLine layers s).fault = (deliver layers s.toList).fault := by
  have hbreak : deliver layers ['\n'] = ⟨['\n'], none⟩ := deliver_of_plain (by decide) layers
  rw [deliverLine, hbreak, Delivery.andThen]
  split
  · next e he => exact he.symm
  · next he => exact he.symm

/-- Without a layer every line arrives. -/
theorem not_jams_zero (s : String) : ¬ Jams 0 s := by
  rw [Jams, fault_deliverLine]
  simp

/-- **A single layer fails** on a line with a command to set the title, and on no other. -/
theorem jams_one_iff {s : String} :
    Jams 1 s ↔ ∃ c ∈ commandsFrom 0 0 s.toList, c.setsTitle = true := by
  rw [Jams, fault_deliverLine, deliver, deletePieces, deleteCommands]
  constructor
  · intro h
    split at h
    · next e he =>
      split at he
      · contradiction
      · next e' hcommands => exact (deleteFrom_eq_error_iff.mp hcommands).2
    · next pieces _ =>
      obtain ⟨e, he⟩ := Option.ne_none_iff_exists'.mp h
      obtain ⟨d, hd, hfault⟩ := Delivery.fault_all he
      obtain ⟨piece, -, rfl⟩ := List.mem_map.mp hd
      contradiction
  · intro htitle
    rw [deleteFrom_eq_error_iff.mpr ⟨rfl, htitle⟩]
    simp

end PropertyFilter.Terminal
