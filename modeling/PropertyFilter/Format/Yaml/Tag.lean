import PropertyFilter.Number.Decimal
import PropertyFilter.Time.Calendar

/-!
# Tags of YAML

The tag of a node says what kind of value it is. A plain scalar without a tag has the one that its
text looks like.

## Main definitions

* `Yaml.Tag`: the tags
* `Yaml.Tag.ofName`: the tag of a full name
* `Yaml.Tag.ofPlain`: the tag that a plain scalar looks like
* `Yaml.Timestamp.ofChars?`: the parts of a date or a moment
-/

namespace PropertyFilter.Yaml

open Number (digitsValue)

/-- The tags, as far as they are told apart. -/
inductive Tag where
  | null
  | bool
  | int
  | float
  | binary
  | timestamp
  | orderedMap
  | pairs
  | set
  | text
  | sequence
  | mapping
  /-- Marks a key whose value is merged into the mapping. -/
  | merge
  /-- Marks the key of the value that stands for a whole mapping. -/
  | value
  | unknown
  deriving DecidableEq, Repr, Inhabited

/-- What the names of the common tags begin with. -/
def commonTags : String := "tag:yaml.org,2002:"

/-- The tag of a full name. -/
def Tag.ofName (name : String) : Tag :=
  let known : List (String × Tag) :=
    [("null", .null), ("bool", .bool), ("int", .int), ("float", .float), ("binary", .binary),
     ("timestamp", .timestamp), ("omap", .orderedMap), ("pairs", .pairs), ("set", .set),
     ("str", .text), ("seq", .sequence), ("map", .mapping), ("merge", .merge), ("value", .value)]
  match known.find? fun (short, _) => commonTags ++ short == name with
  | some (_, t) => t
  | none => .unknown

/-! ### Dates and moments -/

/-- The offset of a time from universal time, as it is written. -/
structure TimeOffset where
  negative : Bool
  hours : Nat
  minutes : Nat
  deriving DecidableEq, Repr

/-- The time of day of a moment, as it is written. -/
structure TimestampClock where
  hour : Nat
  minute : Nat
  second : Nat
  fraction : List Char
  offset : Option TimeOffset
  deriving DecidableEq, Repr

/-- The parts of a date or a moment, as they are written; the date need not exist. -/
structure Timestamp where
  year : Nat
  month : Nat
  day : Nat
  clock : Option TimestampClock
  deriving DecidableEq, Repr

namespace Timestamp

/-- At least `least` and at most `most` digits in front: as many as there are. -/
def takeDigits? (least most : Nat) (cs : List Char) : Option (Nat × List Char) :=
  let ds := (cs.take most).takeWhile Char.isDigit
  if ds.length < least then none else some (digitsValue ds, cs.drop ds.length)

/-- A given character in front. -/
def takeChar? (c : Char) : List Char → Option (List Char)
  | d :: cs => if d = c then some cs else none
  | [] => none

/-- A blank inside a line. -/
def isInnerBlank (c : Char) : Bool := c == ' ' || c == '\t'

/-- An offset with its sign, up to the end. -/
def readOffset? (negative : Bool) (cs : List Char) : Option TimeOffset := do
  let (hours, cs) ← takeDigits? 1 2 cs
  match cs with
  | [] => return ⟨negative, hours, 0⟩
  | ':' :: cs =>
    let (minutes, cs) ← takeDigits? 2 2 cs
    if cs.isEmpty then return ⟨negative, hours, minutes⟩ else none
  | _ => none

/-- What follows the seconds: nothing, or an offset, possibly behind blanks. -/
def readZone? (cs : List Char) : Option (Option TimeOffset) :=
  if cs.isEmpty then some none
  else match cs.dropWhile isInnerBlank with
    | ['Z'] => some (some ⟨false, 0, 0⟩)
    | '+' :: rest => (readOffset? false rest).map some
    | '-' :: rest => (readOffset? true rest).map some
    | _ => none

/-- A time of day, up to the end. -/
def readClock? (cs : List Char) : Option TimestampClock := do
  let (hour, cs) ← takeDigits? 1 2 cs
  let cs ← takeChar? ':' cs
  let (minute, cs) ← takeDigits? 2 2 cs
  let cs ← takeChar? ':' cs
  let (second, cs) ← takeDigits? 2 2 cs
  let (fraction, cs) := match cs with
    | '.' :: rest => (rest.takeWhile Char.isDigit, rest.dropWhile Char.isDigit)
    | _ => ([], cs)
  let offset ← readZone? cs
  return ⟨hour, minute, second, fraction, offset⟩

/-- The parts of a date `YYYY-MM-DD`, possibly with a time of day. Month and day may have one
digit. -/
def ofChars? (cs : List Char) : Option Timestamp := do
  let (year, cs) ← takeDigits? 4 4 cs
  let cs ← takeChar? '-' cs
  let (month, cs) ← takeDigits? 1 2 cs
  let cs ← takeChar? '-' cs
  let (day, cs) ← takeDigits? 1 2 cs
  match cs with
  | [] => return ⟨year, month, day, none⟩
  | c :: rest =>
    if c = 'T' || c = 't' then
      let clock ← readClock? rest
      return ⟨year, month, day, some clock⟩
    else if isInnerBlank c then
      let clock ← readClock? (rest.dropWhile isInnerBlank)
      return ⟨year, month, day, some clock⟩
    else none

end Timestamp

/-! ### The look of plain scalars -/

/-- A text without a sign in front. -/
def unsigned (cs : List Char) : List Char := (Number.takeSign cs).2

/-- A digit or the underscore that may stand between digits. -/
def isDigitOrLine (c : Char) : Bool := c.isDigit || c == '_'

/-- Nonempty, and all characters are of a class. -/
def allOf (p : Char → Bool) (cs : List Char) : Bool := !cs.isEmpty && cs.all p

/-- A digit with digits and underscores behind it, in front of a text, and what follows. -/
def takeDigitGroup? (cs : List Char) : Option (List Char × List Char) :=
  match cs with
  | c :: _ =>
    if c.isDigit then some (cs.takeWhile isDigitOrLine, cs.dropWhile isDigitOrLine) else none
  | [] => none

/-- The minutes or seconds of a number in base sixty: up to two digits below sixty. -/
def isSixtieth : List Char → Bool
  | [c] => c.isDigit
  | [c, d] => '0' ≤ c && c ≤ '5' && d.isDigit
  | _ => false

/-- One or more parts in base sixty, each behind a colon. -/
def areSixtieths : (fuel : Nat) → List Char → Bool
  | 0, _ => false
  | fuel + 1, cs =>
    match cs with
    | ':' :: rest =>
      let field := rest.takeWhile (· != ':')
      isSixtieth field
        && (rest.length == field.length || areSixtieths fuel (rest.drop field.length))
    | _ => false

/-- An exponent with its sign, or nothing. -/
def isExponentOrEmpty : List Char → Bool
  | [] => true
  | e :: s :: ds => (e == 'e' || e == 'E') && (s == '+' || s == '-') && allOf Char.isDigit ds
  | _ => false

/-- A point, digits and possibly an exponent. -/
def isFraction (cs : List Char) : Bool :=
  match cs with
  | '.' :: rest => isExponentOrEmpty (rest.dropWhile isDigitOrLine)
  | _ => false

/-- A number in base sixty whose last part has a point. -/
def isSixtyFraction (cs : List Char) : Bool :=
  let front := cs.takeWhile (· != '.')
  match cs.drop front.length with
  | '.' :: rest => areSixtieths (front.length + 1) front && rest.all isDigitOrLine
  | _ => false

/-- The look of a floating-point number. -/
def looksFloat (cs : List Char) : Bool :=
  let word := String.ofList (unsigned cs)
  [".inf", ".Inf", ".INF"].contains word
    || [".nan", ".NaN", ".NAN"].contains (String.ofList cs)
    || (match cs with
      | '.' :: d :: _ => d.isDigit && isFraction cs
      | _ => false)
    || (match takeDigitGroup? (unsigned cs) with
      | some (_, rest) => isFraction rest || isSixtyFraction rest
      | none => false)

/-- The look of a whole number. -/
def looksInt (cs : List Char) : Bool :=
  let ds := unsigned cs
  match ds with
  | ['0'] => true
  | '0' :: 'b' :: rest => allOf (fun c => c == '0' || c == '1' || c == '_') rest
  | '0' :: 'x' :: rest =>
    allOf (fun c => isDigitOrLine c || ('a' ≤ c && c ≤ 'f') || ('A' ≤ c && c ≤ 'F')) rest
  | '0' :: rest => allOf (fun c => ('0' ≤ c && c ≤ '7') || c == '_') rest
  | _ =>
    match takeDigitGroup? ds with
    | some (_, rest) => rest.isEmpty || areSixtieths (rest.length + 1) rest
    | none => false

/-- The look of a date or a moment: a date alone has two digits for month and day. -/
def looksTimestamp (cs : List Char) : Bool :=
  match Timestamp.ofChars? cs with
  | some t => t.clock.isSome || cs.length == "YYYY-MM-DD".length
  | none => false

/-- The words for truth and falsehood. -/
def truthWords : List String :=
  ["yes", "Yes", "YES", "no", "No", "NO", "true", "True", "TRUE", "false", "False", "FALSE",
   "on", "On", "ON", "off", "Off", "OFF"]

/-- A text without one line feed at its end, which the look does not count. -/
def dropLastBreak (cs : List Char) : List Char :=
  if cs.getLast? = some '\n' then cs.dropLast else cs

/-- The tag that a plain scalar looks like. -/
def Tag.ofPlain (text : List Char) : Tag :=
  let cs := dropLastBreak text
  let word := String.ofList cs
  if text.isEmpty then .null
  else if truthWords.contains word then .bool
  else if looksFloat cs then .float
  else if looksInt cs then .int
  else if word == "<<" then .merge
  else if ["~", "null", "Null", "NULL"].contains word then .null
  else if looksTimestamp cs then .timestamp
  else if word == "=" then .value
  else if ["!", "&", "*"].contains word then .unknown
  else .text

example : Tag.ofPlain "0x1F".toList = .int ∧ Tag.ofPlain "1:30".toList = .int
    ∧ Tag.ofPlain "0o7".toList = .text ∧ Tag.ofPlain "1e3".toList = .text
    ∧ Tag.ofPlain "1:30.5".toList = .float ∧ Tag.ofPlain "2020-1-2".toList = .text := by
  decide +kernel

end PropertyFilter.Yaml
