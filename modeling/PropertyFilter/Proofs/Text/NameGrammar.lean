import Mathlib.Data.List.DropRight
import PropertyFilter.Filter.Shape
import PropertyFilter.Proofs.Text.Characters
import PropertyFilter.Proofs.Text.NameList

/-!
# The grammar of lists of names

Every text lists names: its fields hold one name each, between blanks, or nothing but blanks. The
names that are read from a text are those that its fields list and no others, so reading takes each
text apart in the one possible way, and the plain text of the names that have been read is read as
these names again.

## Main definitions

* `IsTrimmed`: texts without blanks at their ends

## Main results

* `exists_blanks_around_trim`: what trimming takes away from a text
* `NameList.isName_iff`: which texts are names
* `NameList.lists_read`: the fields of a text list the names that are read from it
* `NameList.read_eq_iff`: the names that are read from a text are those that it lists
* `NameList.read_grammar`: reading is the inverse of writing in any layout
-/

namespace PropertyFilter.Text

/-! ## Texts without blanks at their ends -/

/-- A text whose first and last characters, if it has any, are no blanks. -/
structure IsTrimmed (cs : List Char) : Prop where
  head : ∀ c ∈ cs.head?, isBlank c = false
  last : ∀ c ∈ cs.getLast?, isBlank c = false

variable {cs : List Char}

theorem trimStart_eq_self (h : ∀ c ∈ cs.head?, isBlank c = false) : trimStart cs = cs := by
  cases cs with
  | nil => rfl
  | cons c cs =>
    have hc := h c rfl
    rw [trimStart, List.dropWhile_cons_of_neg (by simp [hc])]

theorem trimEnd_eq_self (h : ∀ c ∈ cs.getLast?, isBlank c = false) : trimEnd cs = cs := by
  refine List.rdropWhile_eq_self_iff.mpr fun hne => ?_
  rw [h _ (List.getLast?_eq_some_getLast hne)]
  exact Bool.noConfusion

theorem head_trimStart (cs : List Char) : ∀ c ∈ (trimStart cs).head?, isBlank c = false := by
  intro c hc
  have hhead := List.head?_dropWhile_not isBlank cs
  rw [← trimStart, Option.mem_def.mp hc] at hhead
  exact hhead

theorem last_trimEnd (cs : List Char) : ∀ c ∈ (trimEnd cs).getLast?, isBlank c = false := by
  intro c hc
  obtain ⟨before, hbefore⟩ := List.getLast?_eq_some_iff.mp hc
  have hne : cs.rdropWhile isBlank ≠ [] := by
    show trimEnd cs ≠ []
    rw [hbefore]
    exact List.append_ne_nil_of_right_ne_nil before (List.cons_ne_nil c [])
  have hlast : ¬ isBlank ((trimEnd cs).getLast hne) = true :=
    List.rdropWhile_last_not isBlank cs hne
  simpa [hbefore] using hlast

/-- **Trimming** leaves no blanks at the ends of a text. -/
theorem isTrimmed_trim (cs : List Char) : IsTrimmed (trim cs) where
  head := by
    obtain ⟨rest, hrest⟩ := List.rdropWhile_prefix isBlank (trimStart cs)
    intro c hc
    refine head_trimStart cs c ?_
    rw [← hrest, List.head?_append]
    exact Option.or_eq_some_iff.mpr (.inl hc)
  last := last_trimEnd (trimStart cs)

/-- A text is as it is trimmed exactly if there are no blanks at its ends. -/
theorem trim_eq_self_iff : trim cs = cs ↔ IsTrimmed cs := by
  constructor
  · intro h
    rw [← h]
    exact isTrimmed_trim cs
  · intro h
    rw [trim, trimStart_eq_self h.head, trimEnd_eq_self h.last]

/-- **What trimming takes away** from a text are blanks on both sides. -/
theorem exists_blanks_around_trim (cs : List Char) :
    ∃ front back, AllBlank front ∧ AllBlank back ∧ cs = front ++ trim cs ++ back := by
  refine ⟨cs.takeWhile isBlank, ((trimStart cs).reverse.takeWhile isBlank).reverse,
    fun c hc => List.mem_takeWhile_imp hc,
    fun c hc => List.mem_takeWhile_imp (List.mem_reverse.mp hc), ?_⟩
  rw [trim, List.append_assoc, trimEnd_append_blanks, blanks_append_trimStart]

/-- A text of which nothing is left is a text of blanks. -/
theorem AllBlank.of_trim_eq_nil (h : trim cs = []) : AllBlank cs := by
  obtain ⟨front, back, hfront, hback, hcs⟩ := exists_blanks_around_trim cs
  rw [h, List.append_nil] at hcs
  rw [hcs]
  exact fun c hc => (List.mem_append.mp hc).elim (hfront c) (hback c)

namespace NameList

variable {name : String} {names : List String} {fs : List (List Char)}

/-! ## Names -/

/-- **Names** are the texts that are not empty and hold no separator and have no blanks at their
ends. -/
theorem isName_iff :
    IsName name ↔ name ≠ "" ∧ separator ∉ name.toList ∧ IsTrimmed name.toList := by
  rw [← trim_eq_self_iff, Ne, ← String.toList_eq_nil_iff]
  constructor
  · intro h
    exact ⟨h.ne_nil, h.separator_notMem, h.trim_eq⟩
  · rintro ⟨hne, hsep, htrim⟩
    exact ⟨hne, hsep, htrim⟩

/-- What is left of a field, when it has been trimmed, is a name, or nothing is left. -/
theorem isName_trim (hsep : separator ∉ cs) (hne : trim cs ≠ []) :
    IsName (String.ofList (trim cs)) := by
  obtain ⟨front, back, -, -, hcs⟩ := exists_blanks_around_trim cs
  refine ⟨by rwa [String.toList_ofList], ?_, ?_⟩
  · rw [String.toList_ofList]
    intro hmem
    rw [hcs] at hsep
    exact hsep (List.mem_append_left back (List.mem_append_right front hmem))
  · rw [String.toList_ofList]
    exact trim_eq_self_iff.mpr (isTrimmed_trim cs)

theorem Lists.isName (h : Lists names fs) : ∀ name ∈ names, IsName name := by
  induction h with
  | nil => simp
  | name hname _ _ _ ih => exact List.forall_mem_cons.mpr ⟨hname, ih⟩
  | blank _ _ ih => exact ih

/-! ## Reading -/

/-- Fields list the names that are left when they have been trimmed. -/
theorem lists_trimmed (h : ∀ field ∈ fs, separator ∉ field) :
    Lists (((fs.map trim).filter (!·.isEmpty)).map String.ofList) fs := by
  induction fs with
  | nil => exact .nil
  | cons field fs ih =>
    rw [List.forall_mem_cons] at h
    obtain ⟨front, back, hfront, hback, hfield⟩ := exists_blanks_around_trim field
    by_cases hempty : trim field = []
    · have hlists := Lists.blank (.of_trim_eq_nil hempty) (ih h.2)
      simpa [hempty] using hlists
    · have hlists := Lists.name (isName_trim h.1 hempty) hfront hback (ih h.2)
      rw [String.toList_ofList, ← hfield] at hlists
      simpa [hempty] using hlists

/-- **The fields of a text** list the names that are read from it. -/
theorem lists_read (s : String) : Lists (read s) (fields separator s.toList) := by
  refine lists_trimmed fun field hfield hmem => ?_
  exact (mem_and_ne_of_mem_fields hfield hmem).2 rfl

/-- **The names that are read from a text** are those that it lists, in whatever layout. -/
theorem read_eq_iff {s : String} :
    read s = names ↔ ∃ fs, Lists names fs ∧ s = String.ofList (joinFields separator fs) := by
  constructor
  · rintro rfl
    refine ⟨fields separator s.toList, lists_read s, ?_⟩
    rw [joinFields_fields, String.ofList_toList]
  · rintro ⟨fs, hlists, rfl⟩
    exact read_joinFields hlists

/-- Names list themselves. -/
theorem lists_toList (h : ∀ name ∈ names, IsName name) :
    Lists names (names.map String.toList) := by
  induction names with
  | nil => exact .nil
  | cons name names ih =>
    rw [List.forall_mem_cons] at h
    have hblank : AllBlank [] := fun _ hc => absurd hc List.not_mem_nil
    simpa using Lists.name h.1 hblank hblank (ih h.2)

/-- Names are read back from the plain text that lists them. -/
theorem read_write (h : ∀ name ∈ names, IsName name) : read (write names) = names :=
  read_joinFields (lists_toList h)

theorem read_append_separator (s t : String) : read (s ++ "," ++ t) = read s ++ read t := by
  have hcut : (s ++ "," ++ t).toList = s.toList ++ separator :: t.toList := by
    simp [separator]
  rw [read, hcut, ofChars_append_separator, List.map_append, ← read, ← read]

/-- A text is read as the names that it lists. -/
theorem readNames_text (s : String) : readNames (.text s) = .ok (read s) := by
  by_cases hs : s = ""
  · subst hs
    rfl
  · simp [readNames, Value.isTruthy, hs]

/-- **The grammar of lists of names.** Reading a text never fails, and gives names: texts that are
not empty, hold no separator and have no blanks at their ends. The text reads as given names exactly
if they are listed in its fields in that order, each between any blanks, among any number of fields
of blanks. So the names that have been read are read again from the text that joins them, and two
texts with a separator between them are read one after the other. -/
theorem read_grammar (s : String) :
    readNames (.text s) = .ok (read s) ∧
    (∀ name ∈ read s, IsName name) ∧
    (∀ name, IsName name ↔ name ≠ "" ∧ separator ∉ name.toList ∧ IsTrimmed name.toList) ∧
    (∀ names, read s = names ↔
      ∃ fs, Lists names fs ∧ s = String.ofList (joinFields separator fs)) ∧
    read (write (read s)) = read s ∧
    ∀ t, read (s ++ "," ++ t) = read s ++ read t :=
  ⟨readNames_text s, (lists_read s).isName, fun _ => isName_iff, fun _ => read_eq_iff,
    read_write (lists_read s).isName, read_append_separator s⟩

/-- Blanks within a name belong to it, and a name may come twice. -/
example : read " a ,\u2003b c\u0085,, ,a" = ["a", "b c", "a"] := by decide

end NameList

end PropertyFilter.Text
