import PropertyFilter.Format.Yaml.Document
import PropertyFilter.Proofs.Value.Data

/-!
# What YAML documents hold

Every tag makes plain data out of a node; a time of day alone has no tag.

## Main results

* `Yaml.isData_nodeValue`: the value of a node
* `Yaml.isData_read`: the value of a document
-/

namespace PropertyFilter.Yaml

variable {clocks : Bool} {cs : List Char} {label : Label}

/-- A result that is plain data. -/
abbrev MakesData (clocks : Bool) {ε : Type} (x : Except ε Value) : Prop :=
  Yields (·.IsData clocks) x

/-- A result that is a scalar. -/
abbrev MakesScalar {ε : Type} (x : Except ε Value) : Prop := Yields (·.IsScalar) x

/-! ## Scalars -/

theorem makesScalar_boolValue : MakesScalar (boolValue cs) := by
  unfold boolValue
  dsimp only
  split
  · exact .ok trivial
  · split
    · exact .ok trivial
    · exact .error _

theorem makesScalar_intValue : MakesScalar (intValue cs) := by
  unfold intValue
  exact .of_forall fun (negative, ds) => .of_forall fun n => .ok trivial

theorem makesScalar_floatValue : MakesScalar (floatValue cs) := by
  unfold floatValue
  exact .of_forall fun (negative, ds) => .of_forall fun x => .ok trivial

theorem makesScalar_binaryValue : MakesScalar (binaryValue cs) := by
  unfold binaryValue
  split
  · split
    · exact .ok trivial
    · exact .error _
  · exact .error _

theorem makesScalar_timestampValue : MakesScalar (timestampValue label cs) := by
  unfold timestampValue
  split
  · exact .error _
  · dsimp only
    split
    · split
      · exact .ok trivial
      · exact .error _
    · refine .of_forall fun offset => ?_
      split
      · exact .ok trivial
      · exact .error _

theorem makesScalar_scalarValue? {tag : Tag} {x : ReadResult Value}
    (h : scalarValue? label tag cs = some x) : MakesScalar x := by
  cases tag with
  | null | text =>
    obtain rfl := Option.some.inj h
    exact .ok trivial
  | bool =>
    obtain rfl := Option.some.inj h
    exact makesScalar_boolValue
  | int =>
    obtain rfl := Option.some.inj h
    exact makesScalar_intValue
  | float =>
    obtain rfl := Option.some.inj h
    exact makesScalar_floatValue
  | binary =>
    obtain rfl := Option.some.inj h
    exact makesScalar_binaryValue
  | timestamp =>
    obtain rfl := Option.some.inj h
    exact makesScalar_timestampValue
  | _ => contradiction

theorem makesScalar_scalarNodeValue (fuel depth : Nat) (n : Node) :
    MakesScalar (scalarNodeValue fuel depth n) := by
  unfold scalarNodeValue
  split
  · exact .error _
  · split
    · exact .error _
    · split
      · next v h => exact fun w hw => makesScalar_scalarValue? h w (Except.ok.inj hw ▸ rfl)
      · exact .error _
      · exact .error _

/-! ## Rows -/

theorem yields_gatherResults {α : Type} {P : α → Prop} {rs : List (NodeResult α)}
    (h : ∀ r ∈ rs, Yields P r) : Yields (fun as => ∀ a ∈ as, P a) (gatherResults rs) := by
  induction rs with
  | nil => exact .ok (by simp)
  | cons r rs ih =>
    rw [List.forall_mem_cons] at h
    rw [gatherResults.eq_def]
    dsimp only
    split
    · next a as hrest =>
      have hrest := ih h.2 _ hrest
      exact .ok (List.forall_mem_cons.mpr ⟨h.1 a rfl, hrest⟩)
    · exact .error _
    · exact .error _
    · exact .error _

theorem yields_pairResult {a b : NodeResult Value} (ha : MakesData clocks a)
    (hb : MakesData clocks b) :
    Yields (fun p => p.1.IsData clocks ∧ p.2.IsData clocks) (pairResult a b) := by
  have hrow : Yields (fun vs => ∀ v ∈ vs, v.IsData clocks) (gatherResults [a, b]) :=
    yields_gatherResults (by simp [ha, hb])
  unfold pairResult
  split
  · next x y h => exact .ok (by simpa using hrow _ h)
  · exact .ok (by simp)
  · exact .error _

/-! ## Nodes -/

theorem makesData_keyResult {depth : Nat} {r : NodeResult Value} (h : MakesData clocks r) :
    MakesData clocks (keyResult depth r) := by
  unfold keyResult
  split
  · next v =>
    split
    · exact .ok (h v rfl)
    · exact .error _
  · split
    · exact .error _
    · exact .error _

/-- A key and a value that are plain data make an entry that is, if the key can be one. -/
theorem yields_entry {depth : Nat} {r v : NodeResult Value} (hr : MakesData clocks r)
    (hv : MakesData clocks v) :
    Yields (fun e => e.1.IsData clocks ∧ e.2.IsData clocks)
      (match keyResult depth r with
      | .ok k => pairResult (.ok k) v
      | .error f => .error f) := by
  split
  · next k hk => exact yields_pairResult (.ok (makesData_keyResult hr k hk)) hv
  · exact .error _

/-- Entries that are plain data make such a mapping. -/
theorem yields_ofList {entries : List (Node × Node)} {f : Node × Node → NodeResult (Value × Value)}
    (hf : ∀ e, Yields (fun e => e.1.IsData clocks ∧ e.2.IsData clocks) (f e)) :
    Yields (fun es => ∀ e ∈ es, e.1.IsData clocks ∧ e.2.IsData clocks)
      ((gatherResults (entries.map f)).map Entries.ofList) := by
  refine (yields_gatherResults (P := fun e => e.1.IsData clocks ∧ e.2.IsData clocks)
    ?_).map fun es hes => Entries.forall_mem_ofList hes
  rw [List.forall_mem_map]
  exact fun e _ => hf e

/-- Pairs that are plain data make a row that is. -/
theorem yields_pair {k v : NodeResult Value} (label : Option Label) (hk : MakesData clocks k)
    (hv : MakesData clocks v) :
    MakesData clocks ((pairResult k v).map fun p => .tuple label [p.1, p.2]) :=
  (yields_pairResult hk hv).map fun p hp => by simpa using hp

/-- Items that are plain data make a row that is. -/
theorem makesData_list {items : List Node} {f : Node → NodeResult Value} (label : Option Label)
    (hf : ∀ item, MakesData clocks (f item)) :
    MakesData clocks ((gatherResults (items.map f)).map (.list label)) := by
  refine (yields_gatherResults (P := (·.IsData clocks)) ?_).map fun vs hvs =>
    Value.isData_list_iff.mpr hvs
  rw [List.forall_mem_map]
  exact fun item _ => hf item

/-- **The value of a node** is plain data. -/
theorem isData_nodeValue (fuel depth : Nat) (n : Node) :
    MakesData clocks (nodeValue fuel depth n) := by
  induction fuel generalizing depth n with
  | zero => exact .error _
  | succ fuel ih =>
    rw [nodeValue.eq_def]
    dsimp only
    split
    · exact makesData_list _ (ih _)
    · refine Yields.map ?_ fun es hes => Value.isData_mapping_iff.mpr hes
      split
      · exact .error _
      · exact yields_ofList fun e => yields_entry (ih _ _) (ih _ _)
    · refine Yields.map (P := fun es => ∀ e ∈ es, e.1.IsData clocks ∧ e.2.IsData clocks) ?_
        fun es hes => ?_
      · split
        · exact .error _
        · exact yields_ofList fun e => yields_entry (ih _ _) (ih _ _)
      · rw [Value.isData_set_iff, List.forall_mem_map]
        exact fun e he => (hes e he).1
    · refine makesData_list _ fun item => ?_
      split
      · exact yields_pair _ (ih _ _) (ih _ _)
      · exact .error _
    · refine makesData_list _ fun item => ?_
      split
      · exact yields_pair _ (ih _ _) (ih _ _)
      · exact .error _
    all_goals first
      | exact .error _
      | exact (makesScalar_scalarNodeValue _ _ _).mono fun v hv => hv.isData

/-- **A document holds plain data**, without times of day. -/
theorem isData_read : MakesData clocks (read cs) := by
  unfold read
  refine .of_forall fun n => ?_
  split
  · exact .ok (by simp)
  · exact (isData_nodeValue _ _ _).mapError

end PropertyFilter.Yaml
