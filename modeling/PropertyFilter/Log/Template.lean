import PropertyFilter.Fault
import PropertyFilter.Number.Decimal
import PropertyFilter.Value.Display
import PropertyFilter.Value.Entries

/-!
# Message templates

A template is a text with placeholders that start with a percent sign. Placeholders take values in
turn, or, with a key in parentheses, the value under that key in a mapping. Flags, a width and a
precision say how the value is laid out, and a letter says as what kind of value it is read.

## Main definitions

* `Arguments`: what fills the placeholders
* `fill`: the text that a template and its arguments make
* `Placeholder`, `layOut`: one placeholder and the text that it makes of a value
-/

namespace PropertyFilter

/-- What fills the placeholders of a template. -/
inductive Arguments where
  /-- Values that are taken in turn. -/
  | row (values : List Value)
  /-- A mapping whose values are taken by key. -/
  | keyed (mapping : Value) (entries : List (Value × Value))
  deriving Repr, Inhabited

namespace Template

/-- The largest width. -/
def maxWidth : Nat := Nat.pow 2 63 - 1

/-- The largest precision. -/
def maxPrecision : Nat := Nat.pow 2 31 - 1

/-- The layout that a placeholder asks for. -/
structure Placeholder where
  leftAligned : Bool
  signed : Bool
  spaced : Bool
  alternate : Bool
  zeroFilled : Bool
  width : Option Nat
  precision : Option Nat
  deriving Repr, Inhabited

/-- No flags, width or precision. -/
def Placeholder.plain : Placeholder := ⟨false, false, false, false, false, none, none⟩

/-- The flag that a character stands for, if it is one. -/
def Placeholder.flag? (p : Placeholder) (c : Char) : Option Placeholder :=
  if c = '-' then some { p with leftAligned := true }
  else if c = '+' then some { p with signed := true }
  else if c = ' ' then some { p with spaced := true }
  else if c = '#' then some { p with alternate := true }
  else if c = '0' then some { p with zeroFilled := true }
  else none

/-- Puts a head, such as a sign, and a body into the width; zeros go between them, blanks in front
or behind. -/
def Placeholder.place (p : Placeholder) (zeros : Bool) (head body : List Char) : List Char :=
  let missing := p.width.getD 0 - (head.length + body.length)
  if p.leftAligned then head ++ body ++ List.replicate missing ' '
  else if zeros then head ++ List.replicate missing '0' ++ body
  else List.replicate missing ' ' ++ head ++ body

/-- The sign of a number in front of its magnitude. -/
def Placeholder.sign (p : Placeholder) (negative : Bool) : List Char :=
  if negative then ['-'] else if p.signed then ['+'] else if p.spaced then [' '] else []

/-- The whole number of a value; a floating-point number is cut off unless the letter asks for
whole numbers only. -/
def wholeNumber (exact : Bool) : Value → Except Fault Int
  | .bool b => .ok (if b then 1 else 0)
  | .int n => .ok n
  | .float x =>
    if exact then .error .unsuitable
    else match x with
      | .undefined _ => .error .malformed
      | .infinite _ => .error .overflow
      | .finite _ _ => .ok (x.truncate?.getD 0)
  | _ => .error .unsuitable

/-- The floating-point number of a value. -/
def realNumber : Value → Except Fault Number.Binary64
  | .bool b => .ok (.ofInt (if b then 1 else 0))
  | .int n =>
    match Number.Binary64.ofInt n with
    | .infinite _ => .error .overflow
    | x => .ok x
  | .float x => .ok x
  | _ => .error .unsuitable

/-- The digits of a number in some base, at least as many as the precision asks for. -/
def digitsIn (p : Placeholder) (base n : Nat) : List Char :=
  let ds := Nat.toDigits base n
  List.replicate (p.precision.getD 0 - ds.length) '0' ++ ds

/-- A whole number. -/
def layOutWhole (p : Placeholder) (letter : Char) (v : Value) : Except Fault (List Char) := do
  let base := if letter = 'o' then 8 else if letter = 'x' || letter = 'X' then 16 else 10
  let n ← wholeNumber (base != 10) v
  if maxPrecision - 3 < p.precision.getD 0 then throw .overflow
  let mark := if p.alternate && base != 10 then
      if base = 8 then ['0', 'o'] else ['0', 'x'] else []
  let upper := fun cs : List Char => if letter = 'X' then cs.map Char.toUpper else cs
  return p.place p.zeroFilled (p.sign (n < 0) ++ upper mark) (upper (digitsIn p base n.natAbs))

/-- A point at the end of digits without one. -/
def withPoint (cs : List Char) : List Char :=
  if cs.contains '.' || cs.any Char.isAlpha && !cs.contains 'e' then cs
  else cs.takeWhile (· ≠ 'e') ++ ['.'] ++ cs.dropWhile (· ≠ 'e')

/-- A floating-point number. -/
def layOutReal (p : Placeholder) (letter : Char) (v : Value) : Except Fault (List Char) := do
  let x ← realNumber v
  let places := p.precision.getD 6
  let kind := letter.toLower
  let digits := if kind = 'f' then x.fixedText places
    else if kind = 'e' then x.scientificText places
    else x.generalText places p.alternate
  let digits := if p.alternate then withPoint digits else digits
  let digits := if letter.isUpper then digits.map Char.toUpper else digits
  return p.place p.zeroFilled (p.sign x.isNegative) digits

/-- A single character, given as such or by its number. -/
def layOutChar (p : Placeholder) : Value → Except Fault (List Char)
  | .text s =>
    match s.toList with
    | [c] => .ok (p.place false [] [c])
    | _ => .error .unsuitable
  | .int n =>
    if 0 ≤ n ∧ n < 0x110000 then .ok (p.place false [] [Char.ofNat n.toNat])
    else .error .overflow
  | .bool b => .ok (p.place false [] [Char.ofNat (if b then 1 else 0)])
  | _ => .error .unsuitable

/-- A text with all but ASCII characters escaped. -/
def asciiOnly (s : String) : List Char :=
  s.toList.flatMap fun c => if c.toNat < 0x80 then [c] else Text.hexEscape c.toNat

/-- A text cut off at the precision. -/
def layOutText (p : Placeholder) (cs : List Char) : List Char :=
  p.place false [] (match p.precision with
    | some n => cs.take n
    | none => cs)

/-- The text that a placeholder makes of a value, by its letter. -/
def layOut (p : Placeholder) (letter : Char) (v : Value) : Except Fault (List Char) :=
  if letter = 's' then .ok (layOutText p v.plain.toList)
  else if letter = 'r' then .ok (layOutText p v.shown.toList)
  else if letter = 'a' then .ok (layOutText p (asciiOnly v.shown))
  else if ['d', 'i', 'u', 'o', 'x', 'X'].contains letter then layOutWhole p letter v
  else if ['e', 'E', 'f', 'F', 'g', 'G'].contains letter then layOutReal p letter v
  else if letter = 'c' then layOutChar p v
  else .error .malformed

/-- The arguments that are left while a template is filled. -/
structure Pending where
  /-- The values that come next. -/
  values : List Value
  /-- The mapping that keys are looked up in. -/
  entries : Option (List (Value × Value))
  deriving Repr

/-- The arguments at the beginning; a mapping may also fill one placeholder as a whole. -/
def Pending.ofArguments : Arguments → Pending
  | .row values => ⟨values, none⟩
  | .keyed mapping entries => ⟨[mapping], some entries⟩

/-- Takes the next value. -/
def Pending.next (a : Pending) : Except Fault (Value × Pending) :=
  match a.values with
  | v :: vs => .ok (v, { a with values := vs })
  | [] => .error .unsuitable

/-- A key up to the closing parenthesis that matches the opening one. -/
def takeKey : (depth : Nat) → List Char → Option (List Char × List Char)
  | _, [] => none
  | depth, c :: cs =>
    if c = ')' then
      match depth with
      | 0 => some ([], cs)
      | d + 1 => (takeKey d cs).map fun (k, rest) => (c :: k, rest)
    else
      (takeKey (if c = '(' then depth + 1 else depth) cs).map fun (k, rest) => (c :: k, rest)

/-- Looks up the key of a placeholder, if it has one. -/
def readKey (a : Pending) (cs : List Char) : Except Fault (Pending × List Char) :=
  match cs with
  | '(' :: rest =>
    match a.entries with
    | none => .error .unsuitable
    | some entries =>
      match takeKey 0 rest with
      | none => .error .malformed
      | some (key, rest) =>
        match Entries.findText? entries (String.ofList key) with
        | none => .error .missingKey
        | some v => .ok ({ a with values := [v] }, rest)
  | _ => .ok (a, cs)

/-- Reads the flags. -/
def readFlags (p : Placeholder) : List Char → Placeholder × List Char
  | [] => (p, [])
  | c :: cs =>
    match p.flag? c with
    | some p' => readFlags p' cs
    | none => (p, c :: cs)

/-- A number of digits, or a star that takes the number from the arguments; both have a limit. -/
def readExtent (maxExtent : Nat) (a : Pending) (cs : List Char) :
    Except Fault (Option Int × Pending × List Char) :=
  match cs with
  | '*' :: rest => do
    let (v, a) ← a.next
    match v with
    | .int n => if maxExtent < n.natAbs then .error .overflow else return (some n, a, rest)
    | .bool b => return (some (if b then 1 else 0), a, rest)
    | _ => .error .unsuitable
  | _ =>
    let ds := cs.takeWhile Char.isDigit
    if ds.isEmpty then .ok (none, a, cs)
    else
      let n := Number.digitsValue ds
      if maxExtent < n then .error .malformed
      else .ok (some n, a, cs.dropWhile Char.isDigit)

/-- The width: a negative one aligns to the left. -/
def Placeholder.withWidth (p : Placeholder) : Option Int → Placeholder
  | none => p
  | some n => { p with width := some n.natAbs, leftAligned := p.leftAligned || n < 0 }

/-- Reads the precision behind a point; a point alone means none at all. -/
def readPrecision (a : Pending) (p : Placeholder) (cs : List Char) :
    Except Fault (Placeholder × Pending × List Char) :=
  match cs with
  | '.' :: rest => do
    let (n, a, rest) ← readExtent maxPrecision a rest
    return ({ p with precision := some (n.getD 0).toNat }, a, rest)
  | _ => .ok (p, a, cs)

/-- A length letter has no meaning. -/
def skipLength : List Char → List Char
  | c :: cs => if c = 'h' || c = 'l' || c = 'L' then cs else c :: cs
  | [] => []

/-- Fills one placeholder: the text that it makes, the arguments left and the template behind. -/
def fillOne (a : Pending) (cs : List Char) :
    Except Fault (List Char × Pending × List Char) := do
  let (a, cs) ← readKey a cs
  let (p, cs) := readFlags .plain cs
  let (width, a, cs) ← readExtent maxWidth a cs
  let (p, a, cs) ← readPrecision a (p.withWidth width) cs
  match skipLength cs with
  | [] => .error .malformed
  | letter :: rest =>
    let (v, a) ← a.next
    return (← layOut p letter v, a, rest)

/-- Fills the placeholders of a template in turn; every value of a row has to be used. Two percent
signs stand for one. `fuel` is at least the number of characters. -/
def fillFrom : (fuel : Nat) → Pending → List Char → Except Fault (List Char)
  | 0, _, _ => .ok []
  | fuel + 1, a, cs =>
    match cs with
    | [] => if a.values.isEmpty || a.entries.isSome then .ok [] else .error .unsuitable
    | '%' :: '%' :: rest => do return '%' :: (← fillFrom fuel a rest)
    | '%' :: rest => do
      let (text, a, rest) ← fillOne a rest
      return text ++ (← fillFrom fuel a rest)
    | c :: rest => do return c :: (← fillFrom fuel a rest)

/-- The text that a template and its arguments make. -/
def fill (template : String) (arguments : Arguments) : Except Fault String :=
  let cs := template.toList
  (fillFrom (cs.length + 1) (.ofArguments arguments) cs).map String.ofList

end Template

end PropertyFilter
