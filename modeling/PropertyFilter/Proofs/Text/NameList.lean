import Mathlib.Data.List.TakeWhile
import PropertyFilter.Text.Fields

/-!
# Reading lists of names

A separator cuts a text into two parts that list names for themselves. So the names that a text
lists are found field by field, and a name is found as it is, whatever blanks its field holds on
both sides of it.

## Main definitions

* `AllBlank`: texts of blanks only
* `NameList.IsName`: the texts that can be found in a list
* `NameList.Lists`: fields that list given names

## Main results

* `NameList.ofChars_append_separator`: the names of two parts
* `NameList.read_joinFields`: names are read back from fields that list them
-/

namespace PropertyFilter.Text

/-! ## Fields -/

/-- A separator ends one field and starts another. -/
theorem fields_append_sep (sep : Char) (cs ds : List Char) :
    fields sep (cs ++ sep :: ds) = fields sep cs ++ fields sep ds := by
  induction cs with
  | nil => rw [List.nil_append, fields_cons_sep, fields_nil, List.singleton_append]
  | cons c cs ih =>
    rw [List.cons_append, fields, fields, ih]
    split
    · rw [List.cons_append]
    · obtain ⟨f, fs, hfs⟩ := List.exists_cons_of_ne_nil (fields_ne_nil sep cs)
      rw [hfs, List.cons_append, List.cons_append]

theorem fields_of_notMem {sep : Char} {cs : List Char} (h : sep ∉ cs) :
    fields sep cs = [cs] := by
  induction cs with
  | nil => rfl
  | cons c cs ih =>
    rw [List.mem_cons, not_or] at h
    rw [fields, if_neg (Ne.symm h.1), ih h.2]

/-! ## Blanks -/

/-- A text of blanks only. -/
def AllBlank (cs : List Char) : Prop := ∀ c ∈ cs, isBlank c = true

instance (cs : List Char) : Decidable (AllBlank cs) := List.decidableBAll _ cs

variable {cs front back : List Char}

theorem AllBlank.trimStart_eq_nil (h : AllBlank cs) : trimStart cs = [] :=
  List.dropWhile_eq_nil_iff.mpr h

theorem AllBlank.trim_eq_nil (h : AllBlank cs) : trim cs = [] := by
  rw [trim, h.trimStart_eq_nil, trimEnd_nil]

theorem AllBlank.trim_append_left (h : AllBlank front) (cs : List Char) :
    trim (front ++ cs) = trim cs := by
  rw [trim, trimStart, List.dropWhile_append_of_pos h, ← trimStart, ← trim]

theorem AllBlank.trimEnd_append_right (h : AllBlank back) (cs : List Char) :
    trimEnd (cs ++ back) = trimEnd cs := by
  have hreverse : ∀ c ∈ back.reverse, isBlank c = true :=
    fun c hc => h c (List.mem_reverse.mp hc)
  rw [trimEnd, List.reverse_append, List.dropWhile_append_of_pos hreverse, ← trimEnd]

theorem AllBlank.trim_append_right (h : AllBlank back) (cs : List Char) :
    trim (cs ++ back) = trim cs := by
  have hstart : trimStart (cs ++ back) =
      if (trimStart cs).isEmpty then trimStart back else trimStart cs ++ back :=
    List.dropWhile_append
  -- trimming the front may run into the blanks at the end
  rw [trim, hstart]
  by_cases hcs : trimStart cs = []
  · rw [if_pos (by rw [hcs]; rfl), h.trimStart_eq_nil, trim, hcs]
  · rw [if_neg (by simpa using hcs), h.trimEnd_append_right, trim]

/-- Blanks on both sides of a text do not count. -/
theorem trim_padded (hfront : AllBlank front) (hback : AllBlank back) (cs : List Char) :
    trim (front ++ cs ++ back) = trim cs := by
  rw [hback.trim_append_right, hfront.trim_append_left]

namespace NameList

theorem separator_notMem_of_allBlank (h : AllBlank cs) : separator ∉ cs := by
  intro hmem
  have hblank := h separator hmem
  contradiction

/-! ## Names -/

/-- **A separator cuts a list in two.** -/
theorem ofChars_append_separator (cs ds : List Char) :
    ofChars (cs ++ separator :: ds) = ofChars cs ++ ofChars ds := by
  rw [ofChars, fields_append_sep, List.map_append, List.filter_append, ← ofChars, ← ofChars]

/-- The names in joined fields are those in each of them. -/
theorem ofChars_joinFields (fs : List (List Char)) :
    ofChars (joinFields separator fs) = fs.flatMap ofChars := by
  induction fs with
  | nil => rfl
  | cons f fs ih =>
    cases fs with
    | nil => simp [joinFields]
    | cons g fs =>
      rw [joinFields_cons separator f (List.cons_ne_nil g fs), ofChars_append_separator, ih]
      rfl

/-- One field holds one name at most. -/
theorem ofChars_of_notMem (h : separator ∉ cs) :
    ofChars cs = if trim cs = [] then [] else [trim cs] := by
  rw [ofChars, fields_of_notMem h]
  by_cases hcs : trim cs = []
  · simp [hcs]
  · simp [hcs]

/-- A text that a list can hold as a name: it has no separator in it and no blanks at its ends, and
is not empty. -/
structure IsName (name : String) : Prop where
  ne_nil : name.toList ≠ []
  separator_notMem : separator ∉ name.toList
  trim_eq : trim name.toList = name.toList

/-- **Fields that list names**, in order: each name stands in a field of its own, with any blanks on
both sides, and further fields hold nothing but blanks. -/
inductive Lists : List String → List (List Char) → Prop where
  | nil : Lists [] []
  | name {name : String} {front back : List Char} {names : List String} {fs : List (List Char)}
      (hname : IsName name) (hfront : AllBlank front) (hback : AllBlank back)
      (h : Lists names fs) : Lists (name :: names) ((front ++ name.toList ++ back) :: fs)
  | blank {field : List Char} {names : List String} {fs : List (List Char)}
      (hfield : AllBlank field) (h : Lists names fs) : Lists names (field :: fs)

theorem ofChars_padded {name : String} (hname : IsName name) (hfront : AllBlank front)
    (hback : AllBlank back) : ofChars (front ++ name.toList ++ back) = [name.toList] := by
  have hsep : separator ∉ front ++ name.toList ++ back := by
    rw [List.mem_append, List.mem_append, not_or, not_or]
    exact ⟨⟨separator_notMem_of_allBlank hfront, hname.separator_notMem⟩,
      separator_notMem_of_allBlank hback⟩
  rw [ofChars_of_notMem hsep, trim_padded hfront hback, hname.trim_eq, if_neg hname.ne_nil]

theorem ofChars_blank (h : AllBlank cs) : ofChars cs = [] := by
  rw [ofChars_of_notMem (separator_notMem_of_allBlank h), h.trim_eq_nil, if_pos rfl]

theorem Lists.flatMap_ofChars {names : List String} {fs : List (List Char)}
    (h : Lists names fs) : fs.flatMap ofChars = names.map String.toList := by
  induction h with
  | nil => rfl
  | name hname hfront hback _ ih =>
    rw [List.flatMap_cons, ofChars_padded hname hfront hback, ih, List.map_cons,
      List.singleton_append]
  | blank hfield _ ih => rw [List.flatMap_cons, ofChars_blank hfield, ih, List.nil_append]

/-- **Names are read back** from fields that list them. -/
theorem read_joinFields {names : List String} {fs : List (List Char)} (h : Lists names fs) :
    read (String.ofList (joinFields separator fs)) = names := by
  rw [read, String.toList_ofList, ofChars_joinFields, h.flatMap_ofChars, List.map_map]
  simp [Function.comp_def]

end NameList

end PropertyFilter.Text
