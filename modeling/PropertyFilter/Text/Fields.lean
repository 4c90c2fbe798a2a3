import PropertyFilter.Text.CharacterClass

/-!
# Fields of a separated text

A text is a row of fields with a separator between them. In particular several names are written in
one text with commas between them; there blanks around a name do not count, and neither do fields
that hold nothing but blanks. Order and repetitions are kept.

## Main definitions

* `fields`: the parts of a text between the occurrences of a separator
* `joinFields`: parts put together with a separator between them
* `NameList.read`: the names that a text lists
* `NameList.write`: the plain text that lists given names

## Main results

* `joinFields_fields`: joining the fields of a text gives the text back
-/

namespace PropertyFilter.Text

/-- The parts of a text between the occurrences of `sep`; always at least one. -/
def fields (sep : Char) : List Char → List (List Char)
  | [] => [[]]
  | c :: cs =>
    if c = sep then [] :: fields sep cs
    else match fields sep cs with
      | [] => [[c]]
      | f :: fs => (c :: f) :: fs

/-- Parts put together with `sep` between neighbours. -/
def joinFields (sep : Char) : List (List Char) → List Char
  | [] => []
  | [f] => f
  | f :: g :: fs => f ++ sep :: joinFields sep (g :: fs)

@[simp] theorem fields_nil (sep : Char) : fields sep [] = [[]] := rfl

theorem fields_ne_nil (sep : Char) (cs : List Char) : fields sep cs ≠ [] := by
  cases cs with
  | nil => simp
  | cons c cs =>
    unfold fields
    split
    · simp
    · split <;> simp

theorem fields_cons_sep (sep : Char) (cs : List Char) :
    fields sep (sep :: cs) = [] :: fields sep cs := by
  simp [fields]

theorem joinFields_cons (sep : Char) (f : List Char) {fs : List (List Char)} (h : fs ≠ []) :
    joinFields sep (f :: fs) = f ++ sep :: joinFields sep fs := by
  cases fs with
  | nil => exact absurd rfl h
  | cons g fs => rfl

/-- Nothing is lost: joining the fields of a text gives the text back. -/
theorem joinFields_fields (sep : Char) (cs : List Char) :
    joinFields sep (fields sep cs) = cs := by
  induction cs with
  | nil => rfl
  | cons c cs ih =>
    unfold fields
    split
    · next h => rw [joinFields_cons _ _ (fields_ne_nil sep cs), ih, h]; rfl
    · split
      · next h => exact absurd h (fields_ne_nil sep cs)
      · next f fs h =>
        rw [h] at ih
        cases fs with
        | nil => simpa [joinFields] using ih
        | cons g gs => simpa [joinFields] using ih

/-! ## Lists of names -/

namespace NameList

/-- The character between two names. -/
def separator : Char := ','

/-- The names that a text lists. -/
def ofChars (cs : List Char) : List (List Char) :=
  ((fields separator cs).map trim).filter (!·.isEmpty)

/-- The names that a text lists. -/
def read (s : String) : List String :=
  (ofChars s.toList).map String.ofList

/-- The text that lists the names with a bare separator between neighbours. -/
def write (names : List String) : String :=
  String.ofList (joinFields separator (names.map String.toList))

@[simp] theorem ofChars_nil : ofChars [] = [] := rfl

end NameList

end PropertyFilter.Text
