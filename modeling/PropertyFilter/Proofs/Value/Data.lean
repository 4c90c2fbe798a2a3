import Mathlib.Data.List.Induction
import PropertyFilter.Value.Display
import PropertyFilter.Value.Entries

/-!
# Plain data

Documents hold plain data: nothing, truth values, numbers, texts, octets, lists, tuples, sets,
mappings, dates and moments. Some may hold times of day too.

## Main definitions

* `Value.IsData clocks`: plain data, where `clocks` says whether times of day are allowed
* `Value.IsScalar`: plain data without parts
* `Value.Hereditary P`: `P` holds of lists and mappings just if it holds of their parts
* `Entries.KeysApart es`: no key is the same as an earlier one
* `Yields P x`: if `x` has a result, it satisfies `P`

## Main results

* `Entries.forall_mem_ofList`: what holds of all entries holds of the mapping that they make
* `Entries.keysApart_ofList`, `Entries.KeysApart.ofList_eq`: the keys of a mapping are apart
-/

namespace PropertyFilter

namespace Value

mutual

/-- Plain data, down to the last part. Growable octets, frozen sets, views, ranges, types and
objects are none. -/
def IsData (clocks : Bool) : Value → Prop
  | octets growable _ => growable = false
  | list _ items | tuple _ items => AreData clocks items
  | set _ frozen items => frozen = false ∧ AreData clocks items
  | mapping _ view entries => view = false ∧ EntriesAreData clocks entries
  | clock _ _ => clocks = true
  | range _ _ _ | type _ _ | object _ _ => False
  | _ => True

/-- All values of a row are plain data. -/
def AreData (clocks : Bool) : List Value → Prop
  | [] => True
  | v :: vs => IsData clocks v ∧ AreData clocks vs

/-- All keys and values of entries are plain data. -/
def EntriesAreData (clocks : Bool) : List (Value × Value) → Prop
  | [] => True
  | (key, v) :: es => IsData clocks key ∧ IsData clocks v ∧ EntriesAreData clocks es

end

variable {clocks : Bool}

theorem areData_iff {vs : List Value} : AreData clocks vs ↔ ∀ v ∈ vs, v.IsData clocks := by
  induction vs with
  | nil => simp [AreData]
  | cons v vs ih => simp [AreData, ih]

theorem entriesAreData_iff {es : List (Value × Value)} :
    EntriesAreData clocks es ↔ ∀ e ∈ es, e.1.IsData clocks ∧ e.2.IsData clocks := by
  induction es with
  | nil => simp [EntriesAreData]
  | cons e es ih =>
    obtain ⟨key, v⟩ := e
    rw [EntriesAreData, ih, List.forall_mem_cons, and_assoc]

@[simp] theorem isData_null : null.IsData clocks := trivial

@[simp] theorem isData_bool (b : Bool) : (bool b).IsData clocks := trivial

@[simp] theorem isData_int (n : Int) : (int n).IsData clocks := trivial

@[simp] theorem isData_float (x : Number.Binary64) : (float x).IsData clocks := trivial

@[simp] theorem isData_text (s : String) : (text s).IsData clocks := trivial

@[simp] theorem isData_octets (bs : List UInt8) : (octets false bs).IsData clocks := rfl

@[simp] theorem isData_date (l : Option Label) (d : Time.Date) : (date l d).IsData clocks := trivial

@[simp] theorem isData_moment (l : Option Label) (m : Time.Moment) :
    (moment l m).IsData clocks := trivial

@[simp] theorem isData_clock_iff (l : Option Label) (t : Time.ClockTime) :
    (clock l t).IsData clocks ↔ clocks = true := Iff.rfl

@[simp] theorem isData_list_iff {l : Option Label} {items : List Value} :
    (list l items).IsData clocks ↔ ∀ v ∈ items, v.IsData clocks := areData_iff

@[simp] theorem isData_tuple_iff {l : Option Label} {items : List Value} :
    (tuple l items).IsData clocks ↔ ∀ v ∈ items, v.IsData clocks := areData_iff

@[simp] theorem isData_set_iff {l : Option Label} {items : List Value} :
    (set l false items).IsData clocks ↔ ∀ v ∈ items, v.IsData clocks :=
  (and_iff_right rfl).trans areData_iff

@[simp] theorem isData_mapping_iff {l : Option Label} {entries : List (Value × Value)} :
    (mapping l false entries).IsData clocks ↔
      ∀ e ∈ entries, e.1.IsData clocks ∧ e.2.IsData clocks :=
  (and_iff_right rfl).trans entriesAreData_iff

mutual

/-- Where times of day are allowed, so is what is data without them. -/
theorem IsData.mono : ∀ {v : Value}, v.IsData false → v.IsData clocks
  | .list _ items, h => by
    rw [IsData] at h ⊢
    exact AreData.mono h
  | .tuple _ items, h => by
    rw [IsData] at h ⊢
    exact AreData.mono h
  | .set _ frozen items, h => by
    rw [IsData] at h ⊢
    exact ⟨h.1, AreData.mono h.2⟩
  | .mapping _ view entries, h => by
    rw [IsData] at h ⊢
    exact ⟨h.1, EntriesAreData.mono h.2⟩
  | .octets growable _, h => by
    rw [IsData] at h ⊢
    exact h
  | .clock _ _, h | .range _ _ _, h | .type _ _, h | .object _ _, h => by simp [IsData] at h
  | .null, _ | .bool _, _ | .int _, _ | .float _, _ | .text _, _ | .date _ _, _
  | .moment _ _, _ => by simp

theorem AreData.mono : ∀ {vs : List Value}, AreData false vs → AreData clocks vs
  | [], h => by simp [AreData]
  | v :: vs, h => by
    rw [AreData] at h ⊢
    exact ⟨h.1.mono, h.2.mono⟩

theorem EntriesAreData.mono : ∀ {es : List (Value × Value)},
    EntriesAreData false es → EntriesAreData clocks es
  | [], h => by simp [EntriesAreData]
  | (key, v) :: es, h => by
    rw [EntriesAreData] at h ⊢
    exact ⟨h.1.mono, h.2.1.mono, h.2.2.mono⟩

end

/-! ## Values and their parts -/

/-- `P` holds of texts, and of lists and mappings just if it holds of their parts. -/
structure Hereditary (P : Value → Prop) : Prop where
  text : ∀ s, P (text s)
  list : ∀ {l items}, P (list l items) ↔ ∀ v ∈ items, P v
  mapping : ∀ {l entries}, P (mapping l false entries) ↔ ∀ e ∈ entries, P e.1 ∧ P e.2

theorem hereditary_isData (clocks : Bool) : Hereditary (IsData clocks) :=
  ⟨isData_text, isData_list_iff, isData_mapping_iff⟩

theorem allShowable_iff {vs : List Value} :
    allShowable vs = true ↔ ∀ v ∈ vs, v.isShowable = true := by
  induction vs with
  | nil => simp [allShowable]
  | cons v vs ih => simp [allShowable, ih]

theorem entriesShowable_iff {es : List (Value × Value)} :
    entriesShowable es = true ↔ ∀ e ∈ es, e.1.isShowable = true ∧ e.2.isShowable = true := by
  induction es with
  | nil => simp [entriesShowable]
  | cons e es ih =>
    obtain ⟨key, v⟩ := e
    simp [entriesShowable, ih]

theorem hereditary_isShowable : Hereditary (·.isShowable = true) where
  text _ := by simp [isShowable]
  list := by simp [isShowable, allShowable_iff]
  mapping := by simp [isShowable, entriesShowable_iff]

/-- Plain data without parts. -/
def IsScalar : Value → Prop
  | null | bool _ | int _ | float _ | text _ | octets false _ | date _ _ | moment _ _ => True
  | _ => False

theorem IsScalar.isData {v : Value} (h : v.IsScalar) : v.IsData clocks := by
  cases v with
  | octets growable bs =>
    cases growable with
    | true => exact h.elim
    | false => simp
  | null | bool | int | float | text | date | moment => simp
  | _ => exact h.elim

theorem IsScalar.entries?_eq_none {v : Value} (h : v.IsScalar) : v.entries? = none := by
  cases v with
  | mapping => exact h.elim
  | _ => rfl

end Value

/-! ## Entries -/

namespace Entries

variable {α : Type} {P : Value → Prop} {Q : α → Prop} {es : Entries α}

theorem ofList_snoc (es : List (Value × α)) (e : Value × α) :
    ofList (es ++ [e]) = Entries.insert e.1 e.2 (ofList es) := by
  rw [ofList, List.foldl_append]
  rfl

theorem forall_mem_insert {k : Value} {a : α} (hk : P k) (ha : Q a)
    (h : ∀ e ∈ es, P e.1 ∧ Q e.2) : ∀ e ∈ insert k a es, P e.1 ∧ Q e.2 := by
  induction es with
  | nil => simpa using ⟨hk, ha⟩
  | cons e es ih =>
    obtain ⟨k', b⟩ := e
    rw [List.forall_mem_cons] at h
    rw [insert]
    split
    · rw [List.forall_mem_cons]
      exact ⟨⟨h.1.1, ha⟩, h.2⟩
    · rw [List.forall_mem_cons]
      exact ⟨h.1, ih h.2⟩

/-- What holds of all entries holds of the mapping that they make. -/
theorem forall_mem_ofList {es : List (Value × α)} (h : ∀ e ∈ es, P e.1 ∧ Q e.2) :
    ∀ e ∈ ofList es, P e.1 ∧ Q e.2 := by
  induction es using List.reverseRecOn with
  | nil => simp
  | append_singleton es e ih =>
    rw [List.forall_mem_append] at h
    have hlast := h.2 e (List.mem_singleton.mpr rfl)
    rw [ofList_snoc]
    exact forall_mem_insert hlast.1 hlast.2 (ih h.1)

theorem mem_of_find?_eq_some {key : Value} {a : α} (h : find? es key = some a) :
    ∃ e ∈ es, e.1.same key = true ∧ e.2 = a := by
  obtain ⟨e, he, rfl⟩ := Option.map_eq_some_iff.mp h
  have hkey := List.find?_some he
  exact ⟨e, List.mem_of_find?_eq_some he, hkey, rfl⟩

/-! ### Keys -/

/-- No key is the same as an earlier one. -/
def KeysApart (es : Entries α) : Prop := es.Pairwise fun a b => a.1.same b.1 = false

theorem keysApart_nil : KeysApart ([] : Entries α) := .nil

theorem KeysApart.insert (h : KeysApart es) (k : Value) (a : α) : KeysApart (insert k a es) := by
  induction es with
  | nil => exact List.pairwise_singleton _ _
  | cons e es ih =>
    obtain ⟨k', b⟩ := e
    obtain ⟨hhead, htail⟩ := List.pairwise_cons.mp h
    unfold Entries.insert
    split
    · exact List.pairwise_cons.mpr ⟨hhead, htail⟩
    · next hk =>
      refine List.pairwise_cons.mpr ⟨fun e he => ?_, ih htail⟩
      have hkeys := forall_mem_insert (P := fun k => k'.same k = false) (Q := fun _ : α => True)
        (a := a) (by simpa using hk) trivial (fun e he => ⟨hhead e he, trivial⟩)
      exact (hkeys e he).1

/-- The mapping that a sequence of entries makes has its keys apart. -/
theorem keysApart_ofList (es : List (Value × α)) : KeysApart (ofList es) := by
  induction es using List.reverseRecOn with
  | nil => exact keysApart_nil
  | append_singleton es e ih =>
    rw [ofList_snoc]
    exact ih.insert e.1 e.2

/-- A new key comes in at the end. -/
theorem insert_of_forall_not_same {k : Value} (h : ∀ e ∈ es, e.1.same k = false) (a : α) :
    insert k a es = es ++ [(k, a)] := by
  induction es with
  | nil => rfl
  | cons e es ih =>
    obtain ⟨k', b⟩ := e
    rw [List.forall_mem_cons] at h
    rw [insert, h.1, ih h.2]
    rfl

/-- **Entries with keys apart** make the mapping that they are. -/
theorem KeysApart.ofList_eq (h : KeysApart es) : ofList es = es := by
  induction es using List.reverseRecOn with
  | nil => rfl
  | append_singleton es e ih =>
    obtain ⟨hes, -, hlast⟩ := List.pairwise_append.mp h
    rw [ofList_snoc, ih hes]
    exact insert_of_forall_not_same (fun e' he' => hlast e' he' e (List.mem_singleton_self e)) e.2

end Entries

/-! ## Results -/

/-- If there is a result, it satisfies `P`. -/
def Yields {ε α : Type} (P : α → Prop) (x : Except ε α) : Prop := ∀ a, x = .ok a → P a

namespace Yields

variable {ε δ α β : Type} {P : α → Prop} {Q : β → Prop} {x : Except ε α}

theorem error (e : ε) : Yields P (.error e) := fun _ h => nomatch h

theorem ok {a : α} (h : P a) : Yields P (.ok a : Except ε α) := by
  intro b hb
  exact Except.ok.inj hb ▸ h

theorem bind {f : α → Except ε β} (hx : Yields P x) (hf : ∀ a, P a → Yields Q (f a)) :
    Yields Q (x >>= f) := by
  cases x with
  | error e => exact error e
  | ok a => exact hf a (hx a rfl)

theorem mono {Q : α → Prop} (hx : Yields P x) (h : ∀ a, P a → Q a) : Yields Q x := fun a ha =>
  h a (hx a ha)

/-- Where nothing is known of the first result. -/
theorem of_forall {f : α → Except ε β} (hf : ∀ a, Yields Q (f a)) : Yields Q (x >>= f) :=
  bind (P := fun _ => True) (fun _ _ => trivial) fun a _ => hf a

theorem map {f : α → β} (hx : Yields P x) (hf : ∀ a, P a → Q (f a)) : Yields Q (x.map f) := by
  cases x with
  | error e => exact error e
  | ok a => exact ok (hf a (hx a rfl))

/-- Where nothing is known of the result. -/
theorem map_of_forall {f : α → β} (hf : ∀ a, Q (f a)) : Yields Q (x.map f) :=
  map (P := fun _ => True) (fun _ _ => trivial) fun a _ => hf a

theorem mapError {f : ε → δ} (hx : Yields P x) : Yields P (x.mapError f) := by
  cases x with
  | error e => exact error (f e)
  | ok a => exact ok (hx a rfl)

end Yields

end PropertyFilter
