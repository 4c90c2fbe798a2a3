/-!
# Time stamps

All records carry the same time: the first instant of 1970 in universal time. A stamp is laid out
by a pattern whose directives start with a percent sign.

## Main definitions

* `stamp`: the time laid out by a pattern
-/

namespace PropertyFilter

/-- What a directive stands for at the first instant of 1970. -/
def stampField? (c : Char) : Option String :=
  match c with
  | 'a' => some "Thu" | 'A' => some "Thursday"
  | 'b' | 'h' => some "Jan" | 'B' => some "January"
  | 'c' => some "Thu Jan  1 00:00:00 1970"
  | 'C' => some "19"
  | 'd' => some "01" | 'e' => some " 1"
  | 'D' | 'x' => some "01/01/70"
  | 'F' => some "1970-01-01"
  | 'g' | 'y' => some "70" | 'G' | 'Y' => some "1970"
  | 'H' => some "00" | 'k' => some " 0"
  | 'I' | 'l' => some "12"
  | 'j' => some "001"
  | 'm' => some "01" | 'M' | 'S' => some "00"
  | 'n' => some "\n" | 't' => some "\t"
  | 'p' => some "AM" | 'P' => some "am"
  | 'r' => some "12:00:00 AM"
  | 'R' => some "00:00"
  | 's' => some "0"
  | 'T' | 'X' => some "00:00:00"
  | 'u' | 'w' => some "4"
  | 'U' | 'W' => some "00" | 'V' => some "01"
  | 'z' => some "+0000" | 'Z' => some "GMT"
  | '%' => some "%"
  | _ => none

/-- Replaces directives; what is no directive stays as it is. -/
def stampFrom : List Char → List Char
  | '%' :: c :: cs =>
    match stampField? c with
    | some s => s.toList ++ stampFrom cs
    | none => '%' :: c :: stampFrom cs
  | c :: cs => c :: stampFrom cs
  | [] => []

/-- The time laid out by a pattern. -/
def stamp (pattern : String) : String := String.ofList (stampFrom pattern.toList)

@[simp] theorem stampFrom_nil : stampFrom [] = [] := rfl

end PropertyFilter
