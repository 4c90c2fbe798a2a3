import PropertyFilter.Fault
import PropertyFilter.Number.Decimal
import PropertyFilter.Value.Entries

/-!
# JSON documents

Reading of JSON, with three numbers beyond the standard: `NaN`, `Infinity` and `-Infinity`. Of two
members with one name the later gives the value and the earlier the place.

## Main definitions

* `Json.read`: the value of a document
* `Json.readValue`: the value at the beginning of a text, and what follows
-/

namespace PropertyFilter.Json

open Number (Binary64)

/-- A blank between tokens. -/
def isSpace (c : Char) : Bool := c == ' ' || c == '\t' || c == '\n' || c == '\r'

/-- What follows the blanks in front. -/
def skipSpace (cs : List Char) : List Char := cs.dropWhile isSpace

/-- What follows a word at the beginning of a text. -/
def afterWord? (word : String) (cs : List Char) : Option (List Char) :=
  if word.toList.isPrefixOf cs then some (cs.drop word.length) else none

/-! ### Strings -/

/-- The value of a hexadecimal digit. -/
def hexValue? (c : Char) : Option Nat :=
  if c.isDigit then some (c.toNat - 0x30)
  else if 'a' ≤ c ∧ c ≤ 'f' then some (c.toNat - 0x57)
  else if 'A' ≤ c ∧ c ≤ 'F' then some (c.toNat - 0x37)
  else none

/-- The value of a row of hexadecimal digits. -/
def hexNumber? (cs : List Char) : Option Nat :=
  cs.foldlM (fun n c => (hexValue? c).map (n * 16 + ·)) 0

/-- The code unit of four hexadecimal digits in front, and what follows. -/
def takeUnit? (cs : List Char) : Option (Nat × List Char) :=
  if cs.length < 4 then none
  else (hexNumber? (cs.take 4)).map fun n => (n, cs.drop 4)

/-- The first half of a pair of code units. -/
def isHighHalf (n : Nat) : Bool := 0xd800 ≤ n && n ≤ 0xdbff

/-- The second half of a pair of code units. -/
def isLowHalf (n : Nat) : Bool := 0xdc00 ≤ n && n ≤ 0xdfff

/-- The character of one code unit; half of a pair alone is none, though a text may hold it. -/
def unitChar (n : Nat) : ReadResult Char :=
  if isHighHalf n || isLowHalf n then .error (.fault .beyond) else .ok (Char.ofNat n)

/-- The character of a pair of code units. -/
def pairChar (high low : Nat) : Char :=
  Char.ofNat (0x10000 + (high - 0xd800) * 0x400 + (low - 0xdc00))

/-- The character of a `\u` escape, which may take a second escape for the other half of a pair. -/
def takeEscape (cs : List Char) : ReadResult (Char × List Char) :=
  match takeUnit? cs with
  | none => .error .malformed
  | some (n, rest) =>
    match isHighHalf n, rest with
    | true, '\\' :: 'u' :: more =>
      match takeUnit? more with
      | none => .error .malformed
      | some (m, after) =>
        if isLowHalf m then .ok (pairChar n m, after) else .error (.fault .beyond)
    | _, _ => (unitChar n).map fun c => (c, rest)

/-- The character of a one-letter escape. -/
def letterEscape? (c : Char) : Option Char :=
  match c with
  | '"' => some '"'
  | '\\' => some '\\'
  | '/' => some '/'
  | 'b' => some '\x08'
  | 'f' => some '\x0c'
  | 'n' => some '\n'
  | 'r' => some '\r'
  | 't' => some '\t'
  | _ => none

/-- The rest of a string up to its closing quote. `fuel` is at least the number of characters. -/
def stringTail : (fuel : Nat) → List Char → ReadResult (List Char × List Char)
  | 0, _ => .error .malformed
  | fuel + 1, cs =>
    match cs with
    | [] => .error .malformed
    | '"' :: rest => .ok ([], rest)
    | '\\' :: 'u' :: rest =>
      match takeEscape rest with
      | .error e => .error e
      | .ok (c, rest) => (stringTail fuel rest).map fun (s, after) => (c :: s, after)
    | '\\' :: e :: rest =>
      match letterEscape? e with
      | none => .error .malformed
      | some c => (stringTail fuel rest).map fun (s, after) => (c :: s, after)
    | c :: rest =>
      if c.toNat < 0x20 || c = '\\' then .error .malformed
      else (stringTail fuel rest).map fun (s, after) => (c :: s, after)

/-- A string behind its opening quote. -/
def readString (cs : List Char) : ReadResult (String × List Char) :=
  (stringTail (cs.length + 1) cs).map fun (s, rest) => (String.ofList s, rest)

/-! ### Numbers -/

/-- Digits without a needless zero in front, and what follows. -/
def takeWhole? (cs : List Char) : Option (List Char × List Char) :=
  match cs with
  | '0' :: rest => some (['0'], rest)
  | _ =>
    let ds := cs.takeWhile Char.isDigit
    if ds.isEmpty then none else some (ds, cs.dropWhile Char.isDigit)

/-- A point with digits behind it; without them it is no part of the number. -/
def takeFraction (cs : List Char) : List Char × List Char :=
  match cs with
  | '.' :: rest =>
    let ds := rest.takeWhile Char.isDigit
    if ds.isEmpty then ([], cs) else (ds, rest.dropWhile Char.isDigit)
  | _ => ([], cs)

/-- An exponent; without digits it is no part of the number. -/
def takeExponent (cs : List Char) : Option Int × List Char :=
  match cs with
  | e :: rest =>
    if e = 'e' || e = 'E' then
      let (negative, digits) := Number.takeSign rest
      let ds := digits.takeWhile Char.isDigit
      if ds.isEmpty then (none, cs)
      else
        let n : Int := Number.digitsValue ds
        (some (if negative then -n else n), digits.dropWhile Char.isDigit)
    else (none, cs)
  | [] => (none, [])

/-- A number behind its sign. With a fraction or an exponent it is a floating-point number, else a
whole one. -/
def readMagnitude (negative : Bool) (cs : List Char) : ReadResult (Value × List Char) :=
  match takeWhole? cs with
  | none => .error .malformed
  | some (whole, rest) =>
    let (fraction, rest) := takeFraction rest
    let (exponent, rest) := takeExponent rest
    if fraction.isEmpty && exponent.isNone then
      if maxDigits < whole.length then .error (.fault .malformed)
      else
        let n : Int := Number.digitsValue whole
        .ok (.int (if negative then -n else n), rest)
    else .ok (.float (.ofParts negative whole fraction (exponent.getD 0)), rest)

/-- A number, or one of the words for infinities. -/
def readNumber (cs : List Char) : ReadResult (Value × List Char) :=
  match cs with
  | '-' :: rest =>
    match afterWord? "Infinity" rest with
    | some after => .ok (.float (.infinite true), after)
    | none => readMagnitude true rest
  | _ => readMagnitude false cs

/-- One of the words that stand for a value. -/
def readWord? (cs : List Char) : Option (Value × List Char) :=
  ([("null", .null), ("true", .bool true), ("false", .bool false),
    ("NaN", .float (.undefined 0)), ("Infinity", .float (.infinite false))]).findSome?
    fun (word, v) => (afterWord? word cs).map fun rest => (v, rest)

/-! ### Values -/

mutual

/-- The value at the beginning of a text. `fuel` is at least the number of characters. -/
def readValue : (fuel : Nat) → List Char → ReadResult (Value × List Char)
  | 0, _ => .error .malformed
  | fuel + 1, cs =>
    match cs with
    | '"' :: rest => (readString rest).map fun (s, after) => (.text s, after)
    | '[' :: rest =>
      match skipSpace rest with
      | ']' :: after => .ok (.list none [], after)
      | items => (readItems fuel items).map fun (vs, after) => (.list none vs, after)
    | '\x7b' :: rest =>
      match skipSpace rest with
      | '\x7d' :: after => .ok (.mapping none false [], after)
      | members =>
        (readMembers fuel members).map fun (es, after) =>
          (.mapping none false (Entries.ofList es), after)
    | _ =>
      match readWord? cs with
      | some r => .ok r
      | none => readNumber cs

/-- The items of an array up to its closing bracket. -/
def readItems : (fuel : Nat) → List Char → ReadResult (List Value × List Char)
  | 0, _ => .error .malformed
  | fuel + 1, cs => do
    let (v, rest) ← readValue fuel cs
    match skipSpace rest with
    | ']' :: after => return ([v], after)
    | ',' :: more =>
      let (vs, after) ← readItems fuel (skipSpace more)
      return (v :: vs, after)
    | _ => .error .malformed

/-- The members of an object up to its closing brace. -/
def readMembers : (fuel : Nat) → List Char → ReadResult (List (Value × Value) × List Char)
  | 0, _ => .error .malformed
  | fuel + 1, cs =>
    match cs with
    | '"' :: rest => do
      let (key, rest) ← readString rest
      match skipSpace rest with
      | ':' :: rest =>
        let (v, rest) ← readValue fuel (skipSpace rest)
        match skipSpace rest with
        | '\x7d' :: after => return ([(.text key, v)], after)
        | ',' :: more =>
          let (es, after) ← readMembers fuel (skipSpace more)
          return ((.text key, v) :: es, after)
        | _ => .error .malformed
      | _ => .error .malformed
    | _ => .error .malformed

end

/-- The value of a document; nothing but blanks may follow it, and no byte order mark may stand in
front of it. -/
def read (cs : List Char) : ReadResult Value :=
  match cs with
  | '\ufeff' :: _ => .error .malformed
  | _ => do
    let (v, rest) ← readValue (2 * cs.length + 2) (skipSpace cs)
    if (skipSpace rest).isEmpty then return v else .error .malformed

end PropertyFilter.Json
