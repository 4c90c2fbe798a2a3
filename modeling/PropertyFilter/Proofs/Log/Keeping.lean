import PropertyFilter.Log.Rotation

/-!
# What log files keep

A log file changes files in four ways only: it is opened, text is written at its end, it is moved
aside, and a backup is moved on. What each of these keeps, a log file keeps, whatever is written to
it and however often it is moved aside.

## Main definitions

* `FileLog.closed`: a log file but for the stream that is open
* `FileLog.Keeps l K`: what `l` does to files keeps `K`

## Main results

* `FileLog.closed_write`: a log file stays the same but for its stream
* `FileLog.Keeps.write`: writing a line keeps what each of the changes keeps
-/

namespace PropertyFilter

namespace FileLog

/-- A log file but for the stream that is open. -/
def closed (l : FileLog) : FileLog := { l with stream := none }

/-- What a log file does to files keeps `K`. Moves are made only where there is a size limit. -/
structure Keeps (l : FileLog) (K : FileTree → Prop) : Prop where
  opened : ∀ {t t' : FileTree} {i : Nat}, K t → t.openAppend l.path = .ok (t', i) → K t'
  appended : ∀ {t : FileTree} (i : Nat) (bs : List UInt8), K t → K (t.appendTo i bs)
  moved : ∀ {t t' : FileTree}, 0 < l.maxBytes → 0 < l.backups → K t →
    t.displace? l.path (l.backup 1) = some t' → K t'
  shifted : ∀ {t t' : FileTree} {n : Nat}, 0 < l.maxBytes → (n : Int) + 2 ≤ l.backups → K t →
    t.displace? (l.backup (n + 1)) (l.backup (n + 2)) = some t' → K t'

variable {K : FileTree → Prop} {l l' : FileLog} {t : FileTree}

/-! ## The stream -/

theorem closed_reopen (l : FileLog) (t : FileTree) : (l.reopen t).2.closed = l.closed := by
  unfold reopen
  split <;> rfl

theorem closed_ready (l : FileLog) (t : FileTree) : (l.ready t).2.closed = l.closed := by
  unfold ready
  split
  · rfl
  · exact l.closed_reopen t

theorem closed_rotate (l : FileLog) (t : FileTree) : (l.rotate t).2.1.closed = l.closed := by
  unfold rotate
  generalize (if 0 < l.backups then l.shift t (l.backups - 1).toNat else (t, true)) = shifted
  obtain ⟨t', moved⟩ := shifted
  cases moved with
  | false => rfl
  | true => exact l.closed_reopen t'

theorem closed_makeRoom (l : FileLog) (t : FileTree) (length : Nat) :
    (l.makeRoom t length).2.1.closed = l.closed := by
  have hready := l.closed_ready t
  unfold makeRoom
  split
  · rfl
  · generalize l.ready t = readied at hready ⊢
    obtain ⟨t', l'⟩ := readied
    dsimp only
    split
    · exact (l'.closed_rotate t').trans hready
    · exact hready

theorem closed_append (l : FileLog) (t : FileTree) (bs : List UInt8) :
    (l.append t bs).2.closed = l.closed := by
  have hready := l.closed_ready t
  unfold append
  generalize l.ready t = readied at hready ⊢
  obtain ⟨t', l'⟩ := readied
  dsimp only at hready ⊢
  split <;> exact hready

/-- **Writing a line** changes nothing about a log file but its stream. -/
theorem closed_write (l : FileLog) (t : FileTree) (line : String) :
    (l.write t line).2.closed = l.closed := by
  have hroom := l.closed_makeRoom t (line ++ "\n").length
  unfold write
  dsimp only
  generalize l.makeRoom t (line ++ "\n").length = room at hroom ⊢
  obtain ⟨t', l', moved⟩ := room
  cases moved with
  | false => exact hroom
  | true => exact (l'.closed_append t' _).trans hroom

theorem closed_take (l : FileLog) (t : FileTree) (text : Except Fault String) :
    (l.take t text).2.closed = l.closed := by
  cases text with
  | ok line => exact l.closed_write t line
  | error e => exact l.closed_ready t

/-! ## Files -/

namespace Keeps

/-- What is done to files does not depend on the stream. -/
theorem of_closed (hl : l'.closed = l.closed) (h : l.Keeps K) : l'.Keeps K := by
  obtain ⟨path, maxBytes, backups, stream⟩ := l
  obtain ⟨path', maxBytes', backups', stream'⟩ := l'
  obtain ⟨rfl, rfl, rfl, -⟩ := FileLog.mk.inj hl
  exact ⟨h.opened, h.appended, h.moved, h.shifted⟩

theorem reopen (h : l.Keeps K) (ht : K t) : K (l.reopen t).1 := by
  unfold FileLog.reopen
  split
  · next hopen => exact h.opened ht hopen
  · exact ht

theorem ready (h : l.Keeps K) (ht : K t) : K (l.ready t).1 := by
  unfold FileLog.ready
  split
  · exact ht
  · exact h.reopen ht

/-- Backups are moved on one after the other, and then the file itself is moved aside. -/
theorem shift (h : l.Keeps K) (hlimit : 0 < l.maxBytes) {count : Nat}
    (hcount : (count : Int) < l.backups) (ht : K t) : K (l.shift t count).1 := by
  -- by induction on the backups that are left to move, the oldest of which comes first
  induction count generalizing t with
  | zero =>
    unfold FileLog.shift
    split
    · next hmove => exact h.moved hlimit (by omega) ht hmove
    · exact ht
  | succ n ih =>
    have hrest : (n : Int) < l.backups := by omega
    unfold FileLog.shift
    split
    · split
      · next hmove => exact ih hrest (h.shifted hlimit (by omega) ht hmove)
      · exact ht
    · exact ih hrest ht

theorem rotate (h : l.Keeps K) (hlimit : 0 < l.maxBytes) (ht : K t) : K (l.rotate t).1 := by
  have hshifted : K (if 0 < l.backups then l.shift t (l.backups - 1).toNat else (t, true)).1 := by
    split
    · exact h.shift hlimit (by omega) ht
    · exact ht
  unfold FileLog.rotate
  generalize (if 0 < l.backups then l.shift t (l.backups - 1).toNat else (t, true)) = shifted
    at hshifted ⊢
  obtain ⟨t', moved⟩ := shifted
  cases moved with
  | false => exact hshifted
  | true => exact h.reopen hshifted

/-- Only a file with a size limit is ever full. -/
theorem limit_of_isFull {length : Nat} (hfull : l.isFull t length = true) : 0 < l.maxBytes := by
  unfold isFull at hfull
  split at hfull
  · simp only [Bool.and_eq_true, decide_eq_true_eq] at hfull
    exact hfull.1
  · contradiction

theorem makeRoom (h : l.Keeps K) (ht : K t) (length : Nat) : K (l.makeRoom t length).1 := by
  have hready := h.ready ht
  have hclosed := l.closed_ready t
  unfold FileLog.makeRoom
  split
  · exact ht
  · generalize l.ready t = readied at hready hclosed ⊢
    obtain ⟨t', l'⟩ := readied
    dsimp only
    split
    · next hfull => exact (h.of_closed hclosed).rotate (limit_of_isFull hfull) hready
    · exact hready

theorem append (h : l.Keeps K) (ht : K t) (bs : List UInt8) : K (l.append t bs).1 := by
  have hready := h.ready ht
  unfold FileLog.append
  generalize l.ready t = readied at hready ⊢
  obtain ⟨t', l'⟩ := readied
  dsimp only
  split
  · exact h.appended _ bs hready
  · exact hready

/-- **Writing a line** keeps what each change of the log file keeps. -/
theorem write (h : l.Keeps K) (ht : K t) (line : String) : K (l.write t line).1 := by
  have hroom := h.makeRoom ht (line ++ "\n").length
  have hclosed := l.closed_makeRoom t (line ++ "\n").length
  unfold FileLog.write
  dsimp only
  generalize l.makeRoom t (line ++ "\n").length = room at hroom hclosed ⊢
  obtain ⟨t', l', moved⟩ := room
  cases moved with
  | false => exact hroom
  | true => exact (h.of_closed hclosed).append hroom _

theorem take (h : l.Keeps K) (ht : K t) (text : Except Fault String) : K (l.take t text).1 := by
  cases text with
  | ok line => exact h.write ht line
  | error e => exact h.ready ht

end Keeps

end FileLog

end PropertyFilter
