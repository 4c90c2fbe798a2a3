import Mathlib.Data.List.Forall2
import Mathlib.Data.List.Perm.Subperm
import PropertyFilter.Proofs.Value.Sameness

/-!
# Sameness as an equality

Sets and mappings are compared by looking up the members of one in the other, and by their sizes. On
values as they come up, whose sets hold no member twice and whose mappings no key, this makes
sameness an equality: each value is the same as itself, and it does not matter which of two values
comes first.

## Main definitions

* `Value.IsProper`: sets hold no member twice, and mappings no key, to any depth
* `Value.SameMembers vs ws`: the members of either row are the same as some of the other

## Main results

* `exists_perm_of_length_le`, `exists_partner_of_length_le`: a matching between rows of one length
  leaves nobody out
* `Value.same_refl`, `Value.same_symm`: with transitivity, sameness is an equality on proper values
* `Value.isTruthy_of_same`: of values that are the same, both count as present, or neither does
* `Value.same_members`: proper values that are the same have the same members
* `distinct_same`: rows with the same members make the same set
-/

namespace PropertyFilter

/-! ## Matchings -/

section Matching

variable {α : Type} {xs ys : List α} {R S : α → α → Prop}

theorem exists_mem_of_forall₂ (h : List.Forall₂ R xs ys) : ∀ x ∈ xs, ∃ y ∈ ys, R x y := by
  induction h with
  | nil => simp
  | cons hxy _ ih =>
    refine List.forall_mem_cons.mpr ⟨⟨_, List.mem_cons_self, hxy⟩, fun x hx => ?_⟩
    obtain ⟨y, hy, hsame⟩ := ih x hx
    exact ⟨y, List.mem_cons_of_mem _ hy, hsame⟩

/-- Partners for two rows are partners for both rows together. -/
theorem exists_mem_append {xs' ys' : List α} (h : ∀ x ∈ xs, ∃ y ∈ ys, R x y)
    (h' : ∀ x ∈ xs', ∃ y ∈ ys', R x y) : ∀ x ∈ xs ++ xs', ∃ y ∈ ys ++ ys', R x y := by
  intro x hx
  rcases List.mem_append.mp hx with hx | hx
  · obtain ⟨y, hy, hxy⟩ := h x hx
    exact ⟨y, List.mem_append_left _ hy, hxy⟩
  · obtain ⟨y, hy, hxy⟩ := h' x hx
    exact ⟨y, List.mem_append_right _ hy, hxy⟩

/-- The partners of members that are pairwise unlike are pairwise different, if only members that
are alike share a partner. -/
theorem exists_partners (hxs : xs.Pairwise fun x x' => ¬ S x x')
    (hmatch : ∀ x ∈ xs, ∃ y ∈ ys, R x y)
    (hshared : ∀ x ∈ xs, ∀ x' ∈ xs, ∀ y ∈ ys, R x y → R x' y → S x x') :
    ∃ partners : List α, partners.Nodup ∧ partners ⊆ ys ∧ List.Forall₂ R xs partners := by
  choose partner hmem hpartner using hmatch
  refine ⟨xs.pmap partner fun _ hx => hx, ?_, ?_, ?_⟩
  · refine hxs.pmap _ fun x hx x' hx' hunlike heq => hunlike ?_
    exact hshared x hx x' hx' _ (hmem x hx) (hpartner x hx) (heq ▸ hpartner x' hx')
  · intro y hy
    obtain ⟨x, hx, rfl⟩ := List.mem_pmap.mp hy
    exact hmem x hx
  · rw [List.forall₂_iff_get]
    refine ⟨List.length_pmap.symm, fun i hi _ => ?_⟩
    rw [List.get_eq_getElem, List.get_eq_getElem, List.getElem_pmap]
    exact hpartner _ (List.getElem_mem hi)

/-- A row of members that are pairwise unlike is no longer than a row where they find partners. -/
theorem length_le_of_partners (hxs : xs.Pairwise fun x x' => ¬ S x x')
    (hmatch : ∀ x ∈ xs, ∃ y ∈ ys, R x y)
    (hshared : ∀ x ∈ xs, ∀ x' ∈ xs, ∀ y ∈ ys, R x y → R x' y → S x x') :
    xs.length ≤ ys.length := by
  obtain ⟨partners, hnodup, hsubset, hpairs⟩ := exists_partners hxs hmatch hshared
  exact hpairs.length_eq ▸ (List.subperm_of_subset hnodup hsubset).length_le

/-- On a side that is no longer than the other everybody is a partner: that side, in some order, is
the row of partners. -/
theorem exists_perm_of_length_le (hxs : xs.Pairwise fun x x' => ¬ S x x')
    (hmatch : ∀ x ∈ xs, ∃ y ∈ ys, R x y)
    (hshared : ∀ x ∈ xs, ∀ x' ∈ xs, ∀ y ∈ ys, R x y → R x' y → S x x')
    (hlength : ys.length ≤ xs.length) :
    ∃ partners : List α, partners.Perm ys ∧ List.Forall₂ R xs partners := by
  obtain ⟨partners, hnodup, hsubset, hpairs⟩ := exists_partners hxs hmatch hshared
  -- as many different partners as there are members of the other side
  have hle := hpairs.length_eq ▸ hlength
  exact ⟨partners, (List.subperm_of_subset hnodup hsubset).perm_of_length_le hle, hpairs⟩

/-- **A matching leaves nobody out** on a side that is no longer than the other. -/
theorem exists_partner_of_length_le (hxs : xs.Pairwise fun x x' => ¬ S x x')
    (hmatch : ∀ x ∈ xs, ∃ y ∈ ys, R x y)
    (hshared : ∀ x ∈ xs, ∀ x' ∈ xs, ∀ y ∈ ys, R x y → R x' y → S x x')
    (hlength : ys.length ≤ xs.length) : ∀ y ∈ ys, ∃ x ∈ xs, R x y := by
  obtain ⟨partners, hperm, hpairs⟩ := exists_perm_of_length_le hxs hmatch hshared hlength
  exact fun y hy => exists_mem_of_forall₂ hpairs.flip y (hperm.mem_iff.mpr hy)

end Matching

namespace Value

/-! ## Proper values -/

mutual

/-- A value as it comes up: to any depth, sets hold no member twice, and mappings no key. -/
def IsProper : Value → Prop
  | list _ items | tuple _ items => AreProper items
  | set _ _ items => items.Pairwise (fun a b => a.same b = false) ∧ AreProper items
  | mapping _ _ entries =>
    entries.Pairwise (fun a b => a.1.same b.1 = false) ∧ EntriesAreProper entries
  | _ => True

/-- All values of a row are proper. -/
def AreProper : List Value → Prop
  | [] => True
  | v :: vs => IsProper v ∧ AreProper vs

/-- All keys and values of entries are proper. -/
def EntriesAreProper : List (Value × Value) → Prop
  | [] => True
  | (key, v) :: es => IsProper key ∧ IsProper v ∧ EntriesAreProper es

end

theorem areProper_iff {vs : List Value} : AreProper vs ↔ ∀ v ∈ vs, v.IsProper := by
  induction vs with
  | nil => simp [AreProper]
  | cons v vs ih => simp [AreProper, ih]

theorem entriesAreProper_iff {es : List (Value × Value)} :
    EntriesAreProper es ↔ ∀ e ∈ es, e.1.IsProper ∧ e.2.IsProper := by
  induction es with
  | nil => simp [EntriesAreProper]
  | cons e es ih =>
    obtain ⟨key, v⟩ := e
    rw [EntriesAreProper, ih, List.forall_mem_cons, and_assoc]

@[simp] theorem isProper_text (s : String) : (text s).IsProper := trivial

@[simp] theorem isProper_int (n : Int) : (int n).IsProper := trivial

@[simp] theorem isProper_list_iff {l : Option Label} {items : List Value} :
    (list l items).IsProper ↔ ∀ v ∈ items, v.IsProper := areProper_iff

@[simp] theorem isProper_tuple_iff {l : Option Label} {items : List Value} :
    (tuple l items).IsProper ↔ ∀ v ∈ items, v.IsProper := areProper_iff

@[simp] theorem isProper_set_iff {l : Option Label} {frozen : Bool} {items : List Value} :
    (set l frozen items).IsProper ↔
      items.Pairwise (fun a b => a.same b = false) ∧ ∀ v ∈ items, v.IsProper :=
  and_congr_right fun _ => areProper_iff

@[simp] theorem isProper_mapping_iff {l : Option Label} {view : Bool}
    {entries : List (Value × Value)} :
    (mapping l view entries).IsProper ↔
      entries.Pairwise (fun a b => a.1.same b.1 = false) ∧
        ∀ e ∈ entries, e.1.IsProper ∧ e.2.IsProper :=
  and_congr_right fun _ => entriesAreProper_iff

/-- The members of a proper value are proper. -/
theorem IsProper.of_mem_members {v : Value} (hv : v.IsProper) {vs : List Value}
    (hvs : v.members? = some vs) : ∀ x ∈ vs, x.IsProper := by
  cases v with
  | text | octets | range =>
    obtain rfl := Option.some.inj hvs
    simp
  | list | tuple =>
    obtain rfl := Option.some.inj hvs
    simpa using hv
  | set =>
    obtain rfl := Option.some.inj hvs
    exact (isProper_set_iff.mp hv).2
  | mapping =>
    obtain rfl := Option.some.inj hvs
    have hentries := (isProper_mapping_iff.mp hv).2
    simpa using fun key value hmem => (hentries (key, value) hmem).1
  | _ => contradiction

/-! ## Reflexivity -/

mutual

/-- **A value is the same as itself.** -/
theorem same_refl : ∀ v : Value, same v v = true
  | .null => by simp only [same]
  | .bool _ | .int _ | .float _ => by
    rw [same_of_numeric _ rfl]
    exact beq_self_eq_true _
  | .text s => by simp
  | .list _ items | .tuple _ items => by
    simp only [same]
    exact sameItems_refl items
  | .set _ _ items => by
    simp only [same, beq_self_eq_true, Bool.true_and]
    exact allIn_iff.mpr fun v hv => ⟨v, hv, same_refl_of_mem items v hv⟩
  | .mapping _ _ entries => by
    simp only [same, beq_self_eq_true, Bool.true_and]
    exact allEntriesIn_iff.mpr fun e he => ⟨e, he, same_refl_of_mem_entries entries e he⟩
  | .range a b c => by simp [same, sameRange]
  | .moment _ m => by
    simp only [same]
    exact m.same_self
  | .octets .. | .type .. | .object .. | .date .. | .clock .. => by simp [same]

theorem sameItems_refl : ∀ vs : List Value, sameItems vs vs = true
  | [] => by simp [sameItems]
  | v :: vs => by
    simp only [sameItems, Bool.and_eq_true]
    exact ⟨same_refl v, sameItems_refl vs⟩

theorem same_refl_of_mem : ∀ vs : List Value, ∀ v ∈ vs, same v v = true
  | [], v, hv => absurd hv (by simp)
  | w :: vs, v, hv => by
    rcases List.mem_cons.mp hv with heq | hv
    · exact heq ▸ same_refl w
    · exact same_refl_of_mem vs v hv

theorem same_refl_of_mem_entries :
    ∀ es : List (Value × Value), ∀ e ∈ es, same e.1 e.1 = true ∧ same e.2 e.2 = true
  | [], e, he => absurd he (by simp)
  | (key, v) :: es, e, he => by
    rcases List.mem_cons.mp he with heq | he
    · exact heq ▸ ⟨same_refl key, same_refl v⟩
    · exact same_refl_of_mem_entries es e he

end

/-! ## Symmetry -/

mutual

/-- **Sameness is symmetric** on proper values. -/
theorem same_symm : ∀ {a b : Value}, a.IsProper → b.IsProper → same a b = true → same b a = true
  | .null, b, _, _, h => by
    cases b <;> simp only [same, numeric?, Bool.false_eq_true] at h
    simp only [same]
  | .text s, b, _, _, h => by
    obtain rfl := same_text_iff.mp h
    exact same_refl _
  | .bool _, b, _, _, h | .int _, b, _, _, h | .float _, b, _, _, h => by
    rw [same_of_numeric _ rfl, beq_iff_eq] at h
    rw [same_of_numeric _ h.symm]
    exact beq_self_eq_true _
  | .list _ xs, b, ha, hb, h | .tuple _ xs, b, ha, hb, h => by
    cases b <;> simp only [same, numeric?, Bool.false_eq_true] at h
    simp only [same]
    exact sameItems_symm ha hb h
  | .set _ _ xs, b, ha, hb, h => by
    cases b <;> simp only [same, numeric?, Bool.false_eq_true] at h
    next ys =>
    simp only [same, Bool.and_eq_true, beq_iff_eq] at h ⊢
    have hsymm := same_symm_of_mem ha.2
    have hys := (isProper_set_iff.mp hb).2
    have hpartner := exists_partner_of_length_le (R := fun x y => same x y = true)
      (S := fun x y => same x y = true) (ha.1.imp fun hxy => by simp [hxy])
      (allIn_iff.mp h.2)
      (fun x _ x' hx' y hy hxy hx'y => same_trans hxy (hsymm x' hx' (hys y hy) hx'y)) h.1.ge
    refine ⟨h.1.symm, allIn_iff.mpr fun y hy => ?_⟩
    obtain ⟨x, hx, hxy⟩ := hpartner y hy
    exact ⟨x, hx, hsymm x hx (hys y hy) hxy⟩
  | .mapping _ _ xs, b, ha, hb, h => by
    cases b <;> simp only [same, numeric?, Bool.false_eq_true] at h
    next ys =>
    simp only [same, Bool.and_eq_true, beq_iff_eq] at h ⊢
    have hsymm := same_symm_of_mem_entries ha.2
    have hys := (isProper_mapping_iff.mp hb).2
    have hpartner := exists_partner_of_length_le
      (R := fun x y : Value × Value => same x.1 y.1 = true ∧ same x.2 y.2 = true)
      (S := fun x y => same x.1 y.1 = true) (ha.1.imp fun hxy => by simp [hxy])
      (allEntriesIn_iff.mp h.2)
      (fun x _ x' hx' y hy hxy hx'y =>
        same_trans hxy.1 ((hsymm x' hx').1 (hys y hy).1 hx'y.1)) h.1.ge
    refine ⟨h.1.symm, allEntriesIn_iff.mpr fun y hy => ?_⟩
    obtain ⟨x, hx, hxy⟩ := hpartner y hy
    exact ⟨x, hx, (hsymm x hx).1 (hys y hy).1 hxy.1, (hsymm x hx).2 (hys y hy).2 hxy.2⟩
  | .range .., b, _, _, h => by
    cases b <;> simp only [same, numeric?, Bool.false_eq_true] at h
    simp only [same, sameRange, Bool.and_eq_true, Bool.or_eq_true, beq_iff_eq] at h ⊢
    grind
  | .moment .., b, _, _, h => by
    cases b <;> simp only [same, numeric?, Bool.false_eq_true] at h
    simp only [same, Time.Moment.same, Bool.and_eq_true, beq_iff_eq] at h ⊢
    exact ⟨h.1.symm, h.2.symm⟩
  | .octets .., b, _, _, h | .type .., b, _, _, h | .object .., b, _, _, h
  | .date .., b, _, _, h | .clock .., b, _, _, h => by
    cases b <;> simp only [same, numeric?, Bool.false_eq_true] at h
    simp only [same, Bool.and_eq_true, beq_iff_eq] at h ⊢
    simp [h]

theorem sameItems_symm : ∀ {xs ys : List Value}, AreProper xs → AreProper ys →
    sameItems xs ys = true → sameItems ys xs = true
  | [], ys, _, _, h => by
    cases ys <;> simp [sameItems] at h
    simp [sameItems]
  | x :: xs, ys, hx, hy, h => by
    cases ys <;> simp [sameItems] at h
    simp only [sameItems, Bool.and_eq_true]
    exact ⟨same_symm hx.1 hy.1 h.1, sameItems_symm hx.2 hy.2 h.2⟩

theorem same_symm_of_mem : ∀ {xs : List Value}, AreProper xs →
    ∀ x ∈ xs, ∀ {y : Value}, y.IsProper → same x y = true → same y x = true
  | [], _, x, hx, _, _, _ => absurd hx (by simp)
  | x' :: xs, h, x, hx, y, hy, hxy => by
    rcases List.mem_cons.mp hx with heq | hx
    · exact heq ▸ same_symm h.1 hy (heq ▸ hxy)
    · exact same_symm_of_mem h.2 x hx hy hxy

theorem same_symm_of_mem_entries : ∀ {xs : List (Value × Value)}, EntriesAreProper xs →
    ∀ x ∈ xs, (∀ {y : Value}, y.IsProper → same x.1 y = true → same y x.1 = true) ∧
      ∀ {y : Value}, y.IsProper → same x.2 y = true → same y x.2 = true
  | [], _, x, hx => absurd hx (by simp)
  | (key, v) :: xs, h, x, hx => by
    rcases List.mem_cons.mp hx with heq | hx
    · exact heq ▸ ⟨fun hy hxy => same_symm h.1 hy hxy, fun hy hxy => same_symm h.2.1 hy hxy⟩
    · exact same_symm_of_mem_entries h.2.2 x hx

end

/-! ## Members -/

theorem rangeItems_of_same {a b c a' b' c' : Int} (h : sameRange a b c a' b' c' = true) :
    rangeItems a b c = rangeItems a' b' c' := by
  simp only [sameRange, Bool.and_eq_true, beq_iff_eq, Bool.or_eq_true] at h
  obtain ⟨hsize, hnone | ⟨rfl, hone | rfl⟩⟩ := h
  · rw [rangeItems, rangeItems, ← hsize, hnone]
    rfl
  · rw [rangeItems, rangeItems, ← hsize, hone]
    simp
  · rw [rangeItems, rangeItems, hsize]

theorem sameItems_iff {xs ys : List Value} :
    sameItems xs ys = true ↔ List.Forall₂ (fun x y => same x y = true) xs ys := by
  induction xs generalizing ys with
  | nil => cases ys <;> simp [sameItems]
  | cons x xs ih => cases ys <;> simp [sameItems, ih]

theorem sameItems_nil_iff {xs ys : List Value} (h : sameItems xs ys = true) :
    xs = [] ↔ ys = [] := by
  cases xs <;> cases ys <;> simp [sameItems] at h ⊢

/-- Rows of one length are empty together. -/
theorem isEmpty_eq_of_length_eq {α : Type} {xs ys : List α} (h : xs.length = ys.length) :
    xs.isEmpty = ys.isEmpty := by
  rw [Bool.eq_iff_iff, List.isEmpty_iff_length_eq_zero, List.isEmpty_iff_length_eq_zero, h]

/-- Of values that are the same, both count as present, or neither does. -/
theorem isTruthy_of_same {v w : Value} (h : same v w = true) : v.isTruthy = w.isTruthy := by
  cases sameAs_of_same h with
  | number hv hw => rw [isTruthy_of_numeric hv, isTruthy_of_numeric hw]
  | list hitems | tuple hitems =>
    simp only [isTruthy, isEmpty_eq_of_length_eq (sameItems_iff.mp hitems).length_eq]
  | set hlength | mapping hlength =>
    simp only [isTruthy, isEmpty_eq_of_length_eq hlength]
  | range hnumbers =>
    simp only [sameRange, Bool.and_eq_true, beq_iff_eq] at hnumbers
    simp only [isTruthy, hnumbers.1]
  | null | text | octets | type | object | date | moment | clock => rfl

theorem isMapping_of_numeric {v : Value} {x : Numeric} (h : v.numeric? = some x) :
    v.isMapping = false := by
  cases v with
  | mapping => contradiction
  | _ => rfl

/-- Of values that are the same, both are mappings, or neither is. -/
theorem isMapping_of_same {v w : Value} (h : same v w = true) : v.isMapping = w.isMapping := by
  cases sameAs_of_same h with
  | number hv hw => rw [isMapping_of_numeric hv, isMapping_of_numeric hw]
  | _ => rfl

/-- A number cannot be gone through. -/
theorem members?_of_numeric {v : Value} {x : Numeric} (h : v.numeric? = some x) :
    v.members? = none := by
  cases v with
  | bool | int | float => rfl
  | _ => contradiction

/-- Rows with members that are the same, whatever their order and however often they come up. -/
structure SameMembers (vs ws : List Value) : Prop where
  left : ∀ v ∈ vs, ∃ w ∈ ws, same v w = true
  right : ∀ w ∈ ws, ∃ v ∈ vs, same w v = true

namespace SameMembers

variable {vs ws vs' ws' : List Value}

theorem refl (vs : List Value) : SameMembers vs vs :=
  ⟨fun v hv => ⟨v, hv, same_refl v⟩, fun v hv => ⟨v, hv, same_refl v⟩⟩

theorem append (h : SameMembers vs ws) (h' : SameMembers vs' ws') :
    SameMembers (vs ++ vs') (ws ++ ws') :=
  ⟨exists_mem_append h.left h'.left, exists_mem_append h.right h'.right⟩

end SameMembers

theorem exists_same_member {v w : Value} (h : same v w = true) {vs ws : List Value}
    (hvs : v.members? = some vs) (hws : w.members? = some ws) :
    ∀ x ∈ vs, ∃ y ∈ ws, same x y = true := by
  cases sameAs_of_same h with
  | text | octets =>
    obtain rfl := Option.some.inj (hvs.symm.trans hws)
    exact (SameMembers.refl _).left
  | list hitems | tuple hitems =>
    obtain rfl := Option.some.inj hvs
    obtain rfl := Option.some.inj hws
    exact exists_mem_of_forall₂ (sameItems_iff.mp hitems)
  | set _ hmembers =>
    obtain rfl := Option.some.inj hvs
    obtain rfl := Option.some.inj hws
    exact allIn_iff.mp hmembers
  | mapping _ hentries =>
    obtain rfl := Option.some.inj hvs
    obtain rfl := Option.some.inj hws
    intro key hkey
    obtain ⟨e, he, rfl⟩ := List.mem_map.mp hkey
    obtain ⟨e', he', hsame⟩ := allEntriesIn_iff.mp hentries e he
    exact ⟨e'.1, List.mem_map_of_mem he', hsame.1⟩
  | range hnumbers =>
    obtain rfl := Option.some.inj hvs
    obtain rfl := Option.some.inj hws
    exact rangeItems_of_same hnumbers ▸ (SameMembers.refl _).left
  | number hv _ =>
    rw [members?_of_numeric hv] at hvs
    contradiction
  | null | type | object | date | moment | clock => contradiction

/-- **Proper values that are the same have the same members.** -/
theorem same_members {v w : Value} (hv : v.IsProper) (hw : w.IsProper) (h : same v w = true)
    {vs ws : List Value} (hvs : v.members? = some vs) (hws : w.members? = some ws) :
    SameMembers vs ws :=
  ⟨exists_same_member h hvs hws, exists_same_member (same_symm hv hw h) hws hvs⟩

end Value

/-! ## Sets of the same members -/

open Value

variable {vs ws : List Value}

theorem exists_same_in_distinct (hvs : ∀ v ∈ vs, v.IsProper) {v : Value} (hv : v ∈ vs) :
    ∃ w ∈ distinct vs, same v w = true := by
  have hset := distinct_isSetOf vs
  have hmember : v.memberOf (distinct vs) = true := by
    rw [hset.memberOf_eq]
    exact memberOf_iff.mpr ⟨v, hv, same_refl v⟩
  obtain ⟨w, hw, hsame⟩ := memberOf_iff.mp hmember
  exact ⟨w, hw, same_symm (hvs w (hset.sublist.subset hw)) (hvs v hv) hsame⟩

/-- A row with members that are the same as some of another row makes a set with such members. -/
theorem exists_same_of_distinct (hws : ∀ w ∈ ws, w.IsProper)
    (h : ∀ v ∈ vs, ∃ w ∈ ws, same v w = true) :
    ∀ v ∈ distinct vs, ∃ w ∈ distinct ws, same v w = true := by
  intro v hv
  obtain ⟨w, hw, hvw⟩ := h v ((distinct_isSetOf vs).sublist.subset hv)
  obtain ⟨w', hw', hww'⟩ := exists_same_in_distinct hws hw
  exact ⟨w', hw', same_trans hvw hww'⟩

theorem length_distinct_le (hvs : ∀ v ∈ vs, v.IsProper) (hws : ∀ w ∈ ws, w.IsProper)
    (h : ∀ v ∈ vs, ∃ w ∈ ws, same v w = true) : (distinct vs).length ≤ (distinct ws).length := by
  have hset := distinct_isSetOf vs
  refine length_le_of_partners (R := fun v w => same v w = true)
    (S := fun v w => same v w = true) (hset.pairwise.imp fun hvw => by simp [hvw])
    (exists_same_of_distinct hws h) fun v hv v' hv' w hw hvw hv'w => ?_
  have hv'' := hvs v' (hset.sublist.subset hv')
  have hw'' := hws w ((distinct_isSetOf ws).sublist.subset hw)
  exact same_trans hvw (same_symm hv'' hw'' hv'w)

/-- **Rows with the same members make the same set.** -/
theorem distinct_same (hvs : ∀ v ∈ vs, v.IsProper) (hws : ∀ w ∈ ws, w.IsProper)
    (h : SameMembers vs ws) :
    (distinct vs).length = (distinct ws).length ∧ allIn (distinct vs) (distinct ws) = true :=
  ⟨le_antisymm (length_distinct_le hvs hws h.left) (length_distinct_le hws hvs h.right),
    allIn_iff.mpr (exists_same_of_distinct hws h.left)⟩

end PropertyFilter
