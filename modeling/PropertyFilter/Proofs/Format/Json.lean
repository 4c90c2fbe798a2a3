import PropertyFilter.Format.Json
import PropertyFilter.Proofs.Value.Data

/-!
# What JSON documents hold

## Main results

* `Json.isData_read`: a document holds plain data, without times of day
* `Json.read_emptyTable_cons`: a document with something behind its table
-/

namespace PropertyFilter.Json

variable {clocks : Bool} {cs : List Char}

/-- A value in front of a rest of the text that is plain data. -/
abbrev ReadsData (clocks : Bool) (x : ReadResult (Value × List Char)) : Prop :=
  Yields (fun r => r.1.IsData clocks) x

/-- A scalar in front of a rest of the text. -/
abbrev ReadsScalar (x : ReadResult (Value × List Char)) : Prop := Yields (fun r => r.1.IsScalar) x

theorem readsScalar_readMagnitude (negative : Bool) : ReadsScalar (readMagnitude negative cs) := by
  unfold readMagnitude
  split
  · exact .error _
  · split
    split
    split
    · split
      · exact .error _
      · exact .ok trivial
    · exact .ok trivial

theorem readsScalar_readNumber : ReadsScalar (readNumber cs) := by
  unfold readNumber
  split
  · split
    · exact .ok trivial
    · exact readsScalar_readMagnitude true
  · exact readsScalar_readMagnitude false

theorem isScalar_readWord? {r : Value × List Char} (h : readWord? cs = some r) : r.1.IsScalar := by
  obtain ⟨e, he, h⟩ := List.exists_of_findSome?_eq_some h
  obtain ⟨rest, -, rfl⟩ := Option.map_eq_some_iff.mp h
  simp only [List.mem_cons, List.not_mem_nil, or_false] at he
  rcases he with rfl | rfl | rfl | rfl | rfl <;> trivial

/-- Values, items and members hold plain data. -/
theorem readsData (fuel : Nat) :
    (∀ cs, ReadsData clocks (readValue fuel cs)) ∧
    (∀ cs, Yields (fun r => ∀ v ∈ r.1, v.IsData clocks) (readItems fuel cs)) ∧
    ∀ cs, Yields (fun r => ∀ e ∈ r.1, e.1.IsData clocks ∧ e.2.IsData clocks)
      (readMembers fuel cs) := by
  -- the three readers call each other, always with less fuel
  induction fuel with
  | zero =>
    refine ⟨fun cs => ?_, fun cs => ?_, fun cs => ?_⟩
    · rw [readValue]
      exact .error _
    · rw [readItems]
      exact .error _
    · rw [readMembers]
      exact .error _
  | succ fuel ih =>
    obtain ⟨hvalue, hitems, hmembers⟩ := ih
    refine ⟨fun cs => ?_, fun cs => ?_, fun cs => ?_⟩
    · rw [readValue.eq_def]
      dsimp only
      split
      · exact .map_of_forall (by simp)
      · split
        · exact .ok (by simp)
        · exact (hitems _).map fun r hr => by simpa using hr
      · split
        · exact .ok (by simp)
        · exact (hmembers _).map fun r hr => by simpa using Entries.forall_mem_ofList hr
      · split
        · next r hr => exact .ok (isScalar_readWord? hr).isData
        · exact readsScalar_readNumber.mono fun r hr => hr.isData
    · rw [readItems]
      refine (hvalue cs).bind fun (v, rest) hv => ?_
      simp only
      split
      · exact .ok (by simpa using hv)
      · refine (hitems _).bind fun (vs, after) hvs => .ok ?_
        simpa using ⟨hv, hvs⟩
      · exact .error _
    · rw [readMembers.eq_def]
      dsimp only
      split
      · refine .of_forall fun (key, rest) => ?_
        simp only
        split
        · refine (hvalue _).bind fun (v, rest) hv => ?_
          simp only
          split
          · exact .ok (by simpa using hv)
          · refine (hmembers _).bind fun (es, after) hes => .ok ?_
            rw [List.forall_mem_cons]
            exact ⟨⟨by simp, hv⟩, hes⟩
          · exact .error _
        · exact .error _
      · exact .error _

/-- **A document holds plain data**, without times of day. -/
theorem isData_read : Yields (·.IsData clocks) (read cs) := by
  unfold read
  split
  · exact .error _
  · refine ((readsData _).1 _).bind fun r (hr : r.1.IsData clocks) => ?_
    dsimp only
    split
    · exact .ok hr
    · exact .error _

/-! ## Texts behind a table -/

theorem skipSpace_cons {c : Char} (hc : isSpace c = false) (cs : List Char) :
    skipSpace (c :: cs) = c :: cs := by
  simp [skipSpace, hc]

theorem readValue_emptyTable (fuel : Nat) (cs : List Char) :
    readValue (fuel + 1) ('{' :: '}' :: cs) = .ok (.mapping none false [], cs) := by
  rw [readValue, skipSpace_cons rfl]
  rfl

/-- **Nothing but blanks** may follow a table. -/
theorem read_emptyTable_cons {c : Char} (hc : isSpace c = false) (cs : List Char) :
    read ('{' :: '}' :: c :: cs) = .error .malformed := by
  rw [read, skipSpace_cons rfl, readValue_emptyTable]
  · show (if (skipSpace (c :: cs)).isEmpty then _ else _) = _
    rw [skipSpace_cons hc]
    rfl
  · simp

end PropertyFilter.Json
