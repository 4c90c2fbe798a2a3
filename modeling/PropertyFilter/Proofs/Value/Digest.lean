import PropertyFilter.Proofs.Value.Equality
import PropertyFilter.Value.Digest

/-!
# Digests of values that are the same

Values that are the same have the same digest, so that a digest may stand for a value when values
are looked up. The digest of a number depends on its exact numeric value only, and that of a set or
a mapping is a sum over members, which are matched with those of the other in some order.

## Main definitions

* `Value.SameEntry`: entries with keys and values that are the same

## Main results

* `Value.exists_perm_of_allIn`, `Value.exists_perm_of_allEntriesIn`: sets and mappings that are the
  same match member by member in some order
* `Value.digest_of_same`: proper values that are the same have the same digest
* `Value.setDigest_of_same`: so have sets of values
-/

namespace PropertyFilter

namespace Value

/-! ## Digests of kinds -/

/-- The digest of a number depends on its numeric value only. -/
theorem digest_of_numeric {v : Value} {x : Numeric} (h : v.numeric? = some x) :
    v.digest = x.digest := by
  cases v with
  | bool b | int n | float y =>
    obtain rfl := Option.some.inj h
    simp only [digest, intDigest]
  | _ => simp [numeric?] at h

theorem digestSum_eq_sum (vs : List Value) : digestSum vs = ((digests vs).map spread).sum := by
  induction vs with
  | nil => simp [digestSum, digests]
  | cons v vs ih => simp [digestSum, digests, ih]

theorem digestEntries_eq_sum (es : List (Value × Value)) :
    digestEntries es = (es.map fun e => spread (blend e.1.digest e.2.digest)).sum := by
  induction es with
  | nil => simp [digestEntries]
  | cons e es ih => simp [digestEntries, ih]

theorem digests_eq_map (vs : List Value) : digests vs = vs.map digest := by
  induction vs with
  | nil => simp [digests]
  | cons v vs ih => simp [digests, ih]

/-- Ranges that are the same have the same size, start and step, as far as these count. -/
theorem rangeDigest_of_same {a b c a' b' c' : Int} (h : sameRange a b c a' b' c' = true) :
    rangeDigest a b c = rangeDigest a' b' c' := by
  simp only [sameRange, Bool.and_eq_true, beq_iff_eq, Bool.or_eq_true] at h
  obtain ⟨hsize, hcounts⟩ := h
  unfold rangeDigest
  rw [← hsize]
  rcases hcounts with hnone | ⟨rfl, hone | rfl⟩
  · simp [hnone]
  · simp [hone]
  · rfl

/-! ## Members in another order -/

theorem digestSum_perm {xs ys : List Value} (h : xs.Perm ys) : digestSum xs = digestSum ys := by
  rw [digestSum_eq_sum, digestSum_eq_sum, digests_eq_map, digests_eq_map]
  exact ((h.map digest).map spread).sum_eq

theorem digestEntries_perm {xs ys : List (Value × Value)} (h : xs.Perm ys) :
    digestEntries xs = digestEntries ys := by
  rw [digestEntries_eq_sum, digestEntries_eq_sum]
  exact (h.map _).sum_eq

/-- Sets that are the same have the same members, one by one, in some order. -/
theorem exists_perm_of_allIn {xs ys : List Value}
    (hxs : xs.Pairwise fun a b => a.same b = false) (hproper : AreProper xs)
    (hproper' : AreProper ys) (hlength : xs.length = ys.length) (h : allIn xs ys = true) :
    ∃ partners : List Value, partners.Perm ys ∧ sameItems xs partners = true := by
  rw [areProper_iff] at hproper hproper'
  obtain ⟨partners, hperm, hpairs⟩ := exists_perm_of_length_le
    (R := fun x y => same x y = true) (S := fun x x' => same x x' = true)
    (hxs.imp fun hxx' => by simp [hxx']) (allIn_iff.mp h)
    (fun x _ x' hx' y hy hxy hx'y =>
      same_trans hxy (same_symm (hproper x' hx') (hproper' y hy) hx'y)) hlength.ge
  exact ⟨partners, hperm, sameItems_iff.mpr hpairs⟩

/-- Two entries are the same in key and value. -/
def SameEntry (e e' : Value × Value) : Prop := e.1.same e'.1 = true ∧ e.2.same e'.2 = true

/-- Mappings that are the same have the same entries, one by one, in some order. -/
theorem exists_perm_of_allEntriesIn {xs ys : List (Value × Value)}
    (hxs : xs.Pairwise fun a b => a.1.same b.1 = false) (hproper : EntriesAreProper xs)
    (hproper' : EntriesAreProper ys) (hlength : xs.length = ys.length)
    (h : allEntriesIn xs ys = true) :
    ∃ partners : List (Value × Value), partners.Perm ys ∧
      List.Forall₂ SameEntry xs partners := by
  rw [entriesAreProper_iff] at hproper hproper'
  -- the keys tell the entries apart
  exact exists_perm_of_length_le (R := SameEntry) (S := fun x x' => same x.1 x'.1 = true)
    (hxs.imp fun hxx' => by simp [hxx']) (allEntriesIn_iff.mp h)
    (fun x _ x' hx' y hy hxy hx'y =>
      same_trans hxy.1 (same_symm (hproper x' hx').1 (hproper' y hy).1 hx'y.1)) hlength.ge

/-! ## All values -/

mutual

/-- **Values that are the same have the same digest.** -/
theorem digest_of_same : ∀ {a b : Value}, a.IsProper → b.IsProper → same a b = true →
    a.digest = b.digest
  | .null, b, _, _, h => by
    cases b <;> simp only [same, numeric?, Bool.false_eq_true] at h
    rfl
  | .text s, b, _, _, h => by
    rw [same_text_iff.mp h]
  | .bool _, b, _, _, h | .int _, b, _, _, h | .float _, b, _, _, h => by
    rw [same_of_numeric _ rfl, beq_iff_eq] at h
    rw [digest_of_numeric h.symm, digest_of_numeric rfl]
  | .list _ xs, b, ha, hb, h | .tuple _ xs, b, ha, hb, h => by
    cases b <;> simp only [same, numeric?, Bool.false_eq_true] at h
    simp only [digest]
    rw [digests_of_sameItems ha hb h]
  | .set _ _ xs, b, ha, hb, h => by
    cases b <;> simp only [same, numeric?, Bool.false_eq_true] at h
    next ys =>
    simp only [Bool.and_eq_true, beq_iff_eq] at h
    obtain ⟨partners, hperm, hsame⟩ := exists_perm_of_allIn ha.1 ha.2 hb.2 h.1 h.2
    have hpartners : AreProper partners :=
      areProper_iff.mpr fun v hv => areProper_iff.mp hb.2 v (hperm.mem_iff.mp hv)
    simp only [digest]
    rw [← digestSum_perm hperm, digestSum_eq_sum, digestSum_eq_sum,
      digests_of_sameItems ha.2 hpartners hsame]
  | .mapping _ _ xs, b, ha, hb, h => by
    cases b <;> simp only [same, numeric?, Bool.false_eq_true] at h
    next ys =>
    simp only [Bool.and_eq_true, beq_iff_eq] at h
    obtain ⟨partners, hperm, hsame⟩ := exists_perm_of_allEntriesIn ha.1 ha.2 hb.2 h.1 h.2
    have hpartners : EntriesAreProper partners :=
      entriesAreProper_iff.mpr fun e he => entriesAreProper_iff.mp hb.2 e (hperm.mem_iff.mp he)
    simp only [digest]
    rw [← digestEntries_perm hperm, digestEntries_of_sameEntries ha.2 hpartners hsame]
  | .range .., b, _, _, h => by
    cases b <;> simp only [same, numeric?, Bool.false_eq_true] at h
    simp only [digest]
    exact rangeDigest_of_same h
  | .moment .., b, _, _, h => by
    cases b <;> simp only [same, numeric?, Bool.false_eq_true] at h
    simp only [Time.Moment.same, Bool.and_eq_true, beq_iff_eq] at h
    simp only [digest, h.2]
  | .octets .., b, _, _, h | .type .., b, _, _, h | .object .., b, _, _, h
  | .date .., b, _, _, h | .clock .., b, _, _, h => by
    cases b <;> simp only [same, numeric?, Bool.false_eq_true] at h
    simp only [Bool.and_eq_true, beq_iff_eq] at h
    simp only [digest, h]

theorem digests_of_sameItems : ∀ {xs ys : List Value}, AreProper xs → AreProper ys →
    sameItems xs ys = true → digests xs = digests ys
  | [], ys, _, _, h => by
    cases ys <;> simp [sameItems] at h
    rfl
  | x :: xs, ys, hx, hy, h => by
    cases ys <;> simp [sameItems] at h
    simp only [digests]
    rw [digest_of_same hx.1 hy.1 h.1, digests_of_sameItems hx.2 hy.2 h.2]

theorem digestEntries_of_sameEntries : ∀ {xs ys : List (Value × Value)}, EntriesAreProper xs →
    EntriesAreProper ys → List.Forall₂ SameEntry xs ys → digestEntries xs = digestEntries ys
  | [], ys, _, _, h => by
    rw [List.forall₂_nil_left_iff.mp h]
  | (key, v) :: xs, ys, hx, hy, h => by
    obtain ⟨e, ys, he, hrest, rfl⟩ := List.forall₂_cons_left_iff.mp h
    simp only [digestEntries]
    rw [digest_of_same hx.1 hy.1 he.1, digest_of_same hx.2.1 hy.2.1 he.2,
      digestEntries_of_sameEntries hx.2.2 hy.2.2 hrest]

end

/-! ## Sets -/

theorem same_set_iff {vs ws : List Value} :
    (set none true vs).same (set none true ws) = true ↔
      vs.length = ws.length ∧ allIn vs ws = true := by
  simp only [same, Bool.and_eq_true, beq_iff_eq]

/-- The set of proper values is proper. -/
theorem isProper_distinct {vs : List Value} (hvs : ∀ v ∈ vs, v.IsProper) :
    (set none true (distinct vs)).IsProper :=
  isProper_set_iff.mpr ⟨(distinct_isSetOf vs).pairwise,
    fun v hv => hvs v ((distinct_isSetOf vs).sublist.subset hv)⟩

theorem setDigest_of_same {vs ws : List Value} (hvs : (set none true vs).IsProper)
    (hws : (set none true ws).IsProper) (h : vs.length = ws.length ∧ allIn vs ws = true) :
    setDigest vs = setDigest ws := by
  have hdigest := digest_of_same hvs hws (same_set_iff.mpr h)
  simpa only [digest, setDigest] using hdigest

end Value

end PropertyFilter
