import PropertyFilter.Fault
import PropertyFilter.Format.Json
import PropertyFilter.Format.Yaml.Tag
import PropertyFilter.Text.Base64
import PropertyFilter.Text.CharacterClass
import PropertyFilter.Text.Fields
import PropertyFilter.Text.Lowercase
import PropertyFilter.Value.Basic

/-!
# Values of YAML scalars

The value of a scalar by its tag. Where the text does not fit the tag the value cannot be made.

## Main definitions

* `Yaml.boolValue`, `Yaml.intValue`, `Yaml.floatValue`, `Yaml.binaryValue`, `Yaml.timestampValue`:
  the values of texts
* `Yaml.scalarValue?`: the value of a text by a tag
-/

namespace PropertyFilter.Yaml

open Number (Binary64 digitsValue)
open Text (trim digitValue? decodeBase64 lowercase)
open Time (Date ClockTime Moment)

/-- The words for truth and falsehood, in small letters. -/
def boolValue (cs : List Char) : ReadResult Value :=
  let word := lowercase (String.ofList cs)
  if ["yes", "true", "on"].contains word then .ok (.bool true)
  else if ["no", "false", "off"].contains word then .ok (.bool false)
  else .error (.fault .missingKey)

/-- A text without underscores. -/
def withoutLines (cs : List Char) : List Char := cs.filter (· != '_')

/-! ### Whole numbers -/

/-- The value of a digit of some base, in any script. -/
def digitOf? (base : Nat) (c : Char) : Option Nat := do
  let n ← (digitValue? c).orElse fun _ => Json.hexValue? c
  if n < base then some n else none

/-- The letter that may mark a base. -/
def baseLetter? (base : Nat) : Option Char :=
  match base with
  | 2 => some 'b'
  | 8 => some 'o'
  | 16 => some 'x'
  | _ => none

/-- Drops a zero and the letter of the base, if digits follow. -/
def dropBaseMark (base : Nat) (cs : List Char) : List Char :=
  match cs with
  | '0' :: letter :: rest =>
    if baseLetter? base = some letter.toLower && !rest.isEmpty then rest else cs
  | _ => cs

/-- The whole number of a text in some base, with a sign and blanks around it. -/
def intOfText (base : Nat) (cs : List Char) : ReadResult Int :=
  let (negative, digits) := Number.takeSign (trim cs)
  let digits := dropBaseMark base digits
  match digits.mapM (digitOf? base) with
  | none => .error (.fault .malformed)
  | some ds =>
    if ds.isEmpty || (base == 10 && maxDigits < ds.length) then .error (.fault .malformed)
    else
      let n := ds.foldl (fun n d => n * base + d) 0
      .ok (if negative then -(n : Int) else n)

/-- Fields between colons. -/
def colonFields (cs : List Char) : List (List Char) := Text.fields ':' cs

/-- The sign in front of a nonempty text, and the rest. -/
def takeFactor (cs : List Char) : ReadResult (Bool × List Char) :=
  if cs.isEmpty then .error (.fault .missingPlace) else .ok (Number.takeSign cs)

/-- The whole number of a text: with a mark for base two or sixteen, with a zero in front in base
eight, with colons in base sixty. -/
def intValue (cs : List Char) : ReadResult Value := do
  let (negative, ds) ← takeFactor (withoutLines cs)
  let n ← (match ds with
    | [] => throw (.fault .missingPlace)
    | ['0'] => return 0
    | '0' :: 'b' :: rest => intOfText 2 rest
    | '0' :: 'x' :: rest => intOfText 16 rest
    | '0' :: _ => intOfText 8 ds
    | _ =>
      if ds.contains ':' then do
        let parts ← (colonFields ds).mapM (intOfText 10)
        return parts.foldl (fun n part => n * 60 + part) 0
      else intOfText 10 ds : ReadResult Int)
  return .int (if negative then -n else n)

/-! ### Floating-point numbers -/

/-- A decimal digit of any script as the one that is meant. -/
def plainDigit (c : Char) : Char :=
  match digitValue? c with
  | some n => Char.ofNat (n + '0'.toNat)
  | none => c

/-- The floating-point number of a text, with blanks around it. -/
def floatOfText (cs : List Char) : ReadResult Binary64 :=
  match Binary64.ofChars? ((trim cs).map plainDigit) with
  | some x => .ok x
  | none => .error (.fault .malformed)

/-- The sum of parts in base sixty, the last one first; `base` is the weight of the first of them. A
weight that is out of range cannot be multiplied. -/
def sixtiethSum (sum : Binary64) (base : Nat) : List Binary64 → ReadResult Binary64
  | [] => .ok sum
  | part :: parts =>
    match Binary64.ofInt base with
    | .infinite _ => .error (.fault .overflow)
    | weight => sixtiethSum (sum.add (part.mul weight)) (base * 60) parts

/-- The floating-point number of a text. -/
def floatValue (cs : List Char) : ReadResult Value := do
  let (negative, ds) ← takeFactor (lowercase (String.ofList (withoutLines cs))).toList
  let word := String.ofList ds
  let x ← (
    if word == ".inf" then return .infinite false
    else if word == ".nan" then return .undefined 0
    else if ds.contains ':' then do
      let parts ← (colonFields ds).mapM floatOfText
      sixtiethSum (.finite false 0) 1 parts.reverse
    else floatOfText ds : ReadResult Binary64)
  return .float (if negative then x.neg else x)

/-! ### Octets, dates and moments -/

/-- Octets in base sixty-four. -/
def binaryValue (cs : List Char) : ReadResult Value :=
  if cs.all (·.toNat < 128) then
    match decodeBase64 cs with
    | some bs => .ok (.octets false bs)
    | none => .error .malformed
  else .error .malformed

/-- The first six digits of a fraction of a second. -/
def microseconds (fraction : List Char) : Nat :=
  let six := fraction.take 6
  digitsValue (six ++ List.replicate (6 - six.length) '0')

/-- The minutes of an offset; it is less than a day. -/
def offsetMinutes (o : TimeOffset) : ReadResult Int :=
  let n := o.hours * 60 + o.minutes
  if n < 24 * 60 then .ok (if o.negative then -(n : Int) else n) else .error (.fault .malformed)

/-- The date or the moment of a timestamp, if it exists. -/
def timestampValue (label : Label) (cs : List Char) : ReadResult Value :=
  match Timestamp.ofChars? (dropLastBreak cs) with
  | none => .error (.fault .noSuchOperation)
  | some t =>
    let date := Date.ofParts? t.year t.month t.day
    match t.clock with
    | none => (match date with
      | some d => .ok (.date (some label) d)
      | none => .error (.fault .malformed))
    | some k => do
      let offset ← k.offset.mapM offsetMinutes
      match date, ClockTime.ofParts? k.hour k.minute k.second (microseconds k.fraction) with
      | some d, some time => return .moment (some label) ⟨d, time, offset⟩
      | _, _ => throw (.fault .malformed)

/-- The value of a text by a tag; none if the tag is not one of scalars. -/
def scalarValue? (label : Label) (tag : Tag) (cs : List Char) : Option (ReadResult Value) :=
  match tag with
  | .null => some (.ok .null)
  | .bool => some (boolValue cs)
  | .int => some (intValue cs)
  | .float => some (floatValue cs)
  | .binary => some (binaryValue cs)
  | .timestamp => some (timestampValue label cs)
  | .text => some (.ok (.text (String.ofList cs)))
  | _ => none

end PropertyFilter.Yaml
