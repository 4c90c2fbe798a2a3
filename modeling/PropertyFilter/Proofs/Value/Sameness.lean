import Mathlib
import PropertyFilter.Value.Entries

/-!
# Sameness, sets and look-up

Sameness of values is transitive, and a text is the same as itself only. Hence removing repetitions
keeps membership, membership of a text is membership in the list, and an entry under a text key is
found exactly under that key.

## Main definitions

* `Value.SameAs`: the ways in which two values are the same
* `IsSetOf s vs`: `s` holds the values of `vs`, each once

## Main results

* `Value.sameAs_of_same`: values that are the same are both numbers, or of one kind
* `Value.same_trans`: sameness is transitive, on values nested to any depth
* `distinct_isSetOf`: removing repetitions makes a set
* `Entries.findText?_insert`: what a look-up finds after an insertion
-/

namespace PropertyFilter

namespace Value

/-! ## Texts and numbers -/

theorem same_text_iff {s : String} {b : Value} : same (text s) b = true ↔ b = text s := by
  cases b with
  | text t =>
    simp only [same_text, beq_iff_eq, text.injEq]
    exact ⟨Eq.symm, Eq.symm⟩
  | _ => simp only [same, numeric?, Bool.false_eq_true, reduceCtorEq]

theorem same_text_right_iff {s : String} {a : Value} : same a (text s) = true ↔ a = text s := by
  cases a with
  | text t => simp
  | _ => simp only [same, numeric?, Bool.false_eq_true, reduceCtorEq]

/-- A number is the same as whatever has its numeric value. -/
theorem same_of_numeric {a : Value} (b : Value) {x : Numeric} (ha : a.numeric? = some x) :
    same a b = (some x == b.numeric?) := by
  cases a with
  | bool c | int c | float c =>
    obtain rfl := Option.some.inj ha
    cases b <;> simp only [same, numeric?] <;> rfl
  | _ => simp [numeric?] at ha

/-- A number counts as present unless it is zero. -/
theorem isTruthy_of_numeric {v : Value} {x : Numeric} (h : v.numeric? = some x) :
    v.isTruthy = (x != .exact 0) := by
  rw [Bool.eq_iff_iff, bne_iff_ne]
  -- how many units make one matters only in that it is not zero
  have hone : (Number.Binary64.unitsPerOne : Int) ≠ 0 := by decide +kernel
  cases v with
  | bool b =>
    obtain rfl := Option.some.inj h
    generalize (Number.Binary64.unitsPerOne : Int) = one at hone
    cases b <;> simp [isTruthy, hone]
  | int n =>
    obtain rfl := Option.some.inj h
    generalize (Number.Binary64.unitsPerOne : Int) = one at hone
    simp [isTruthy, hone]
  | float x =>
    obtain rfl := Option.some.inj h
    cases x with
    | finite negative units =>
      cases units <;> cases negative <;>
        simp [isTruthy, floatNumeric, Number.Binary64.isZero] <;> omega
    | infinite _ | undefined _ => simp [isTruthy, floatNumeric, Number.Binary64.isZero]
  | _ => simp [numeric?] at h

theorem same_bool_self (b : Bool) : same (bool b) (bool b) = true := by
  rw [same_of_numeric _ rfl]
  exact beq_self_eq_true _

theorem sameRange_trans {a b c a' b' c' a'' b'' c'' : Int}
    (h : sameRange a b c a' b' c' = true) (h' : sameRange a' b' c' a'' b'' c'' = true) :
    sameRange a b c a'' b'' c'' = true := by
  simp only [sameRange, Bool.and_eq_true, beq_iff_eq, Bool.or_eq_true] at h h' ⊢
  grind

/-! ## What is the same as what -/

/-- The ways in which two values are the same. Numbers are compared by their numeric value, other
values with values of their own kind, by what is in them. -/
inductive SameAs : Value → Value → Prop where
  | number {a b : Value} {x : Numeric} (ha : a.numeric? = some x) (hb : b.numeric? = some x) :
    SameAs a b
  | null : SameAs null null
  | text (s : String) : SameAs (text s) (text s)
  | octets {growable growable' : Bool} (bs : List UInt8) :
    SameAs (octets growable bs) (octets growable' bs)
  | list {l l' : Option Label} {xs ys : List Value} (hitems : sameItems xs ys = true) :
    SameAs (list l xs) (list l' ys)
  | tuple {l l' : Option Label} {xs ys : List Value} (hitems : sameItems xs ys = true) :
    SameAs (tuple l xs) (tuple l' ys)
  | set {l l' : Option Label} {frozen frozen' : Bool} {xs ys : List Value}
    (hlength : xs.length = ys.length) (hmembers : allIn xs ys = true) :
    SameAs (set l frozen xs) (set l' frozen' ys)
  | mapping {l l' : Option Label} {view view' : Bool} {xs ys : List (Value × Value)}
    (hlength : xs.length = ys.length) (hentries : allEntriesIn xs ys = true) :
    SameAs (mapping l view xs) (mapping l' view' ys)
  | range {a b c a' b' c' : Int} (hnumbers : sameRange a b c a' b' c' = true) :
    SameAs (range a b c) (range a' b' c')
  | type (name : String) (serial : Nat) : SameAs (type name serial) (type name serial)
  | object {typeName typeName' : String} (serial : Nat) :
    SameAs (object typeName serial) (object typeName' serial)
  | date {l l' : Option Label} (d : Time.Date) : SameAs (date l d) (date l' d)
  | moment {l l' : Option Label} {m n : Time.Moment} (hmoments : m.same n = true) :
    SameAs (moment l m) (moment l' n)
  | clock {l l' : Option Label} (t : Time.ClockTime) : SameAs (clock l t) (clock l' t)

/-- **Values that are the same** are both numbers, or of one kind. -/
theorem sameAs_of_same {a b : Value} (h : same a b = true) : SameAs a b := by
  cases ha : a.numeric? with
  | some x =>
    rw [same_of_numeric b ha, beq_iff_eq] at h
    exact .number ha h.symm
  | none =>
    cases a <;> cases b <;> simp only [numeric?, reduceCtorEq] at ha <;>
      simp only [same, numeric?, Bool.false_eq_true, Bool.and_eq_true, beq_iff_eq] at h
    case null.null => exact .null
    case text.text => exact h ▸ .text _
    case octets.octets => exact h ▸ .octets _
    case list.list => exact .list h
    case tuple.tuple => exact .tuple h
    case set.set => exact .set h.1 h.2
    case mapping.mapping => exact .mapping h.1 h.2
    case range.range => exact .range h
    case type.type =>
      obtain ⟨rfl, rfl⟩ := h
      exact .type _ _
    case object.object => exact h ▸ .object _
    case date.date => exact h ▸ .date _
    case moment.moment => exact .moment h
    case clock.clock => exact h ▸ .clock _

/-! ## Transitivity -/

theorem allIn_iff {xs ys : List Value} :
    allIn xs ys = true ↔ ∀ x ∈ xs, ∃ y ∈ ys, same x y = true := by
  induction xs with
  | nil => simp [allIn]
  | cons x xs ih => simp [allIn, ih]

theorem allEntriesIn_iff {xs ys : List (Value × Value)} :
    allEntriesIn xs ys = true ↔
      ∀ x ∈ xs, ∃ y ∈ ys, same x.1 y.1 = true ∧ same x.2 y.2 = true := by
  induction xs with
  | nil => simp [allEntriesIn]
  | cons x xs ih =>
    obtain ⟨k, v⟩ := x
    simp only [allEntriesIn, Bool.and_eq_true, List.any_eq_true, ih, List.forall_mem_cons]

mutual

/-- **Sameness is transitive.** Symmetry is not needed anywhere: a value is looked for among those
that came before it. -/
theorem same_trans : ∀ {a b c : Value}, same a b = true → same b c = true → same a c = true
  | .null, b, c, h, h' => by
    cases b <;> simp only [same, numeric?, Bool.false_eq_true] at h
    exact h'
  | .text s, b, c, h, h' => by
    rw [same_text_iff] at h
    exact h ▸ h'
  | .bool _, b, c, h, h' | .int _, b, c, h, h' | .float _, b, c, h, h' => by
    rw [same_of_numeric _ rfl, beq_iff_eq] at h
    rw [same_of_numeric _ h.symm] at h'
    rw [same_of_numeric _ rfl]
    exact h'
  | .list _ xs, b, c, h, h' | .tuple _ xs, b, c, h, h' => by
    cases b <;> simp only [same, numeric?, Bool.false_eq_true] at h
    cases c <;> simp only [same, numeric?, Bool.false_eq_true] at h'
    simp only [same]
    exact sameItems_trans h h'
  | .set _ _ xs, b, c, h, h' => by
    cases b <;> simp only [same, numeric?, Bool.false_eq_true] at h
    cases c <;> simp only [same, numeric?, Bool.false_eq_true] at h'
    simp only [same, Bool.and_eq_true, beq_iff_eq] at h h' ⊢
    exact ⟨h.1.trans h'.1, allIn_trans h.2 h'.2⟩
  | .mapping _ _ xs, b, c, h, h' => by
    cases b <;> simp only [same, numeric?, Bool.false_eq_true] at h
    cases c <;> simp only [same, numeric?, Bool.false_eq_true] at h'
    simp only [same, Bool.and_eq_true, beq_iff_eq] at h h' ⊢
    exact ⟨h.1.trans h'.1, allEntriesIn_trans h.2 h'.2⟩
  | .range .., b, c, h, h' => by
    cases b <;> simp only [same, numeric?, Bool.false_eq_true] at h
    cases c <;> simp only [same, numeric?, Bool.false_eq_true] at h'
    simp only [same]
    exact sameRange_trans h h'
  | .moment .., b, c, h, h' => by
    cases b <;> simp only [same, numeric?, Bool.false_eq_true] at h
    cases c <;> simp only [same, numeric?, Bool.false_eq_true] at h'
    simp only [same, Time.Moment.same, Bool.and_eq_true, beq_iff_eq] at h h' ⊢
    exact ⟨h.1.trans h'.1, h.2.trans h'.2⟩
  | .octets .., b, c, h, h' | .type .., b, c, h, h' | .object .., b, c, h, h'
  | .date .., b, c, h, h' | .clock .., b, c, h, h' => by
    cases b <;> simp only [same, numeric?, Bool.false_eq_true] at h
    cases c <;> simp only [same, numeric?, Bool.false_eq_true] at h'
    simp only [same, Bool.and_eq_true, beq_iff_eq] at h h' ⊢
    simp [h, h']

theorem sameItems_trans : ∀ {xs ys zs : List Value},
    sameItems xs ys = true → sameItems ys zs = true → sameItems xs zs = true
  | [], ys, zs, h, h' => by
    cases ys <;> simp [sameItems] at h
    exact h'
  | x :: xs, ys, zs, h, h' => by
    cases ys <;> simp [sameItems] at h
    cases zs <;> simp [sameItems] at h'
    simp only [sameItems, Bool.and_eq_true]
    exact ⟨same_trans h.1 h'.1, sameItems_trans h.2 h'.2⟩

theorem allIn_trans : ∀ {xs ys zs : List Value},
    allIn xs ys = true → allIn ys zs = true → allIn xs zs = true
  | [], _, _, _, _ => by simp [allIn]
  | x :: xs, ys, zs, h, h' => by
    simp only [allIn, Bool.and_eq_true, List.any_eq_true] at h ⊢
    obtain ⟨⟨y, hy, hxy⟩, hxs⟩ := h
    obtain ⟨z, hz, hyz⟩ := allIn_iff.mp h' y hy
    exact ⟨⟨z, hz, same_trans hxy hyz⟩, allIn_trans hxs h'⟩

theorem allEntriesIn_trans : ∀ {xs ys zs : List (Value × Value)},
    allEntriesIn xs ys = true → allEntriesIn ys zs = true → allEntriesIn xs zs = true
  | [], _, _, _, _ => by simp [allEntriesIn]
  | (k, v) :: xs, ys, zs, h, h' => by
    simp only [allEntriesIn, Bool.and_eq_true, List.any_eq_true] at h ⊢
    obtain ⟨⟨y, hy, hky, hvy⟩, hxs⟩ := h
    obtain ⟨z, hz, hkz, hvz⟩ := allEntriesIn_iff.mp h' y hy
    exact ⟨⟨z, hz, same_trans hky hkz, same_trans hvy hvz⟩, allEntriesIn_trans hxs h'⟩

end

/-! ## Membership -/

theorem memberOf_iff {v : Value} {vs : List Value} :
    v.memberOf vs = true ↔ ∃ w ∈ vs, same w v = true := by
  simp [memberOf, List.any_eq_true]

/-- Membership of a text is membership in the list. -/
theorem text_memberOf_iff {s : String} {vs : List Value} :
    (text s).memberOf vs = true ↔ text s ∈ vs := by
  simp [memberOf_iff, same_text_right_iff]

theorem memberOf_of_same {u v : Value} {vs : List Value} (hu : u.memberOf vs = true)
    (h : same u v = true) : v.memberOf vs = true := by
  obtain ⟨w, hw, hwu⟩ := memberOf_iff.mp hu
  exact memberOf_iff.mpr ⟨w, hw, same_trans hwu h⟩

theorem allHashable_iff {vs : List Value} :
    allHashable vs = true ↔ ∀ v ∈ vs, v.isHashable = true := by
  induction vs with
  | nil => simp
  | cons v vs ih => simp [allHashable, ih]

theorem allHashable_append (vs ws : List Value) :
    allHashable (vs ++ ws) = (allHashable vs && allHashable ws) := by
  induction vs with
  | nil => simp
  | cons v vs ih => simp [allHashable, ih, Bool.and_assoc]

theorem allHashable_map_text (names : List String) : allHashable (names.map text) = true := by
  induction names with
  | nil => simp
  | cons n names ih => simp [allHashable, ih]

end Value

/-! ## Sets -/

/-- `s` holds the values of `vs`, each once, in the order in which they come in first. -/
structure IsSetOf (s vs : List Value) : Prop where
  sublist : s.Sublist vs
  pairwise : s.Pairwise fun a b => a.same b = false
  memberOf_eq : ∀ v : Value, v.memberOf s = v.memberOf vs

theorem IsSetOf.nil : IsSetOf [] [] := ⟨List.Sublist.refl _, List.Pairwise.nil, fun _ => rfl⟩

/-- One more value: it is added unless it is there already. -/
theorem IsSetOf.insertDistinct {s vs : List Value} (h : IsSetOf s vs) (v : Value) :
    IsSetOf (insertDistinct s v) (vs ++ [v]) := by
  unfold PropertyFilter.insertDistinct
  split
  · -- a value that is there already changes no membership: sameness is transitive
    next hv =>
    refine ⟨h.sublist.trans (List.sublist_append_left _ _), h.pairwise, fun u => ?_⟩
    rw [Value.memberOf_append, ← h.memberOf_eq, Value.memberOf_cons, Value.memberOf_nil,
      Bool.or_false]
    cases huv : v.same u with
    | false => simp
    | true => simp [Value.memberOf_of_same hv huv]
  · next hv =>
    refine ⟨h.sublist.append (List.Sublist.refl _), ?_, fun u => ?_⟩
    · rw [List.pairwise_append]
      refine ⟨h.pairwise, List.pairwise_singleton _ _, fun a ha b hb => ?_⟩
      obtain rfl := List.mem_singleton.mp hb
      by_contra hab
      exact hv (Value.memberOf_iff.mpr ⟨a, ha, by simpa using hab⟩)
    · rw [Value.memberOf_append, Value.memberOf_append, h.memberOf_eq]

/-- **Removing repetitions makes a set.** -/
theorem distinct_isSetOf (vs : List Value) : IsSetOf (distinct vs) vs := by
  induction vs using List.reverseRecOn with
  | nil => exact IsSetOf.nil
  | append_singleton vs v ih =>
    rw [distinct, List.foldl_append]
    exact ih.insertDistinct v

theorem IsSetOf.text_mem_iff {s vs : List Value} (h : IsSetOf s vs) {t : String} :
    Value.text t ∈ s ↔ Value.text t ∈ vs := by
  rw [← Value.text_memberOf_iff, h.memberOf_eq, Value.text_memberOf_iff]

/-! ## Look-up under text keys -/

namespace Entries

variable {α : Type}

theorem findText?_cons (key : String) (k : Value) (a : α) (es : Entries α) :
    findText? ((k, a) :: es) key = if k.same (.text key) then some a else findText? es key :=
  find?_cons _ _ _ _

/-- An insertion under another key leaves what is found under a text. -/
theorem findText?_insert_of_ne {k : Value} {t : String} (hk : k ≠ .text t) (a : α)
    (es : Entries α) : findText? (insert k a es) t = findText? es t := by
  have hsame : k.same (.text t) = false := by
    rw [Bool.eq_false_iff, ne_eq, Value.same_text_right_iff]
    exact hk
  induction es with
  | nil => simp [findText?, find?_cons, hsame]
  | cons e es ih =>
    obtain ⟨k', b⟩ := e
    unfold insert
    split
    · next h =>
      have hsame' : k'.same (.text t) = false := by
        rw [Bool.eq_false_iff, ne_eq, Value.same_text_right_iff]
        rintro rfl
        exact hk (Value.same_text_iff.mp h)
      simp [findText?_cons, hsame']
    · rw [findText?_cons, findText?_cons, ih]

/-- An insertion under a text key changes what is found under that key, and nothing else. -/
theorem findText?_insert (key other : String) (a : α) (es : Entries α) :
    findText? (insert (.text key) a es) other =
      if key = other then some a else findText? es other := by
  by_cases hk : key = other
  · subst hk
    rw [if_pos rfl]
    exact find?_insert_self _ _ _ (by simp)
  · rw [if_neg hk, findText?_insert_of_ne (by simpa using hk)]

end Entries

end PropertyFilter
