import PropertyFilter.Format.Toml.Strings
import PropertyFilter.Value.Basic

/-!
# Numbers, dates and times of TOML

## Main definitions

* `Toml.readMoment?`: a date, with or without a time of day
* `Toml.readClock?`: a time of day
* `Toml.readNumber?`: a whole number or a floating-point number
* `Toml.readSpecial?`: an infinity or an undefined number
-/

namespace PropertyFilter.Toml

open Number (Binary64 digitsValue)
open Time (Date ClockTime Moment)

/-- A fixed number of digits in front. -/
def takeDigits? (count : Nat) (cs : List Char) : Option (Nat × List Char) :=
  let ds := cs.take count
  if ds.length = count && ds.all Char.isDigit then some (digitsValue ds, cs.drop count) else none

/-- A given character in front. -/
def takeChar? (c : Char) : List Char → Option (List Char)
  | d :: cs => if d = c then some cs else none
  | [] => none

/-- The microseconds of a fraction of a second: digits beyond the sixth do not count. -/
def microseconds (ds : List Char) : Nat :=
  let six := ds.take 6
  digitsValue (six ++ List.replicate (6 - six.length) '0')

/-- A fraction of a second, if there is one. -/
def takeMicroseconds (cs : List Char) : Nat × List Char :=
  match cs with
  | '.' :: rest =>
    let ds := rest.takeWhile Char.isDigit
    if ds.isEmpty then (0, cs) else (microseconds ds, rest.dropWhile Char.isDigit)
  | _ => (0, cs)

/-- A time of day, `HH:MM:SS` with an optional fraction. -/
def takeClock? (cs : List Char) : Option (ClockTime × List Char) := do
  let (hour, cs) ← takeDigits? 2 cs
  let cs ← takeChar? ':' cs
  let (minute, cs) ← takeDigits? 2 cs
  let cs ← takeChar? ':' cs
  let (second, cs) ← takeDigits? 2 cs
  let t ← ClockTime.ofParts? hour minute second 0
  let (micro, cs) := takeMicroseconds cs
  return ({ t with microsecond := micro }, cs)

/-- An offset from universal time, `Z` or `±HH:MM`, if there is one. -/
def takeOffset (cs : List Char) : Option Int × List Char :=
  let signed := fun (sign : Int) (rest : List Char) => do
    let (hours, rest) ← takeDigits? 2 rest
    let rest ← takeChar? ':' rest
    let (minutes, rest) ← takeDigits? 2 rest
    if hours < 24 ∧ minutes < 60 then
      return (sign * (hours * 60 + minutes : Nat), rest)
    else none
  match cs with
  | 'Z' :: rest | 'z' :: rest => (some 0, rest)
  | '+' :: rest => (match signed 1 rest with
    | some (o, after) => (some o, after)
    | none => (none, cs))
  | '-' :: rest => (match signed (-1) rest with
    | some (o, after) => (some o, after)
    | none => (none, cs))
  | _ => (none, cs)

/-- The year, month and day of a date; month and day are in their general ranges. -/
def takeDateParts? (cs : List Char) : Option ((Nat × Nat × Nat) × List Char) := do
  let (year, cs) ← takeDigits? 4 cs
  let cs ← takeChar? '-' cs
  let (month, cs) ← takeDigits? 2 cs
  let cs ← takeChar? '-' cs
  let (day, cs) ← takeDigits? 2 cs
  if 1 ≤ month ∧ month ≤ 12 ∧ 1 ≤ day ∧ day ≤ 31 then return ((year, month, day), cs) else none

/-- A time of day behind a `T` or a blank. -/
def takeClockPart? (cs : List Char) : Option (ClockTime × List Char) :=
  match cs with
  | c :: rest => if c = 'T' || c = 't' || c = ' ' then takeClock? rest else none
  | [] => none

/-- A date, possibly with a time of day and an offset; none if there is no date in front. A date
that does not exist is an error. -/
def readMoment? (cs : List Char) : Option (ReadResult (Value × List Char)) := do
  let ((year, month, day), rest) ← takeDateParts? cs
  match Date.ofParts? year month day with
  | none => return .error .malformed
  | some d =>
    match takeClockPart? rest with
    | none => return .ok (.date none d, rest)
    | some (t, rest) =>
      let (offset, rest) := takeOffset rest
      return .ok (.moment none ⟨d, t, offset⟩, rest)

/-- A time of day. -/
def readClock? (cs : List Char) : Option (Value × List Char) :=
  (takeClock? cs).map fun (t, rest) => (.clock none t, rest)

/-- Digits of some kind, with single underscores between them. -/
def takeGrouped (isDigit : Char → Bool) : List Char → List Char × List Char
  | [] => ([], [])
  | c :: cs =>
    if isDigit c then
      let (ds, rest) := takeGrouped isDigit cs
      (c :: ds, rest)
    else match c, cs with
      | '_', d :: _ =>
        if isDigit d then takeGrouped isDigit cs else ([], c :: cs)
      | _, _ => ([], c :: cs)

/-- Digits that begin with a digit. -/
def takeGroup? (isDigit : Char → Bool) (cs : List Char) : Option (List Char × List Char) :=
  match cs with
  | c :: _ => if isDigit c then some (takeGrouped isDigit cs) else none
  | [] => none

/-- A number in base two, eight or sixteen behind its zero and letter. -/
def takeBased? (base : Nat) (isDigit : Char → Bool) (cs : List Char) :
    Option (Value × List Char) := do
  let (ds, rest) ← takeGroup? isDigit cs
  let n := ds.foldl (fun n c => n * base + (Json.hexValue? c).getD 0) 0
  return (.int n, rest)

/-- A number in base two, eight or sixteen. -/
def readBased? (cs : List Char) : Option (Value × List Char) :=
  match cs with
  | '0' :: 'x' :: rest => takeBased? 16 (fun c => (Json.hexValue? c).isSome) rest
  | '0' :: 'b' :: rest => takeBased? 2 (fun c => c == '0' || c == '1') rest
  | '0' :: 'o' :: rest => takeBased? 8 (fun c => '0' ≤ c && c ≤ '7') rest
  | _ => none

/-- The whole part of a decimal number: a zero alone, or digits that do not begin with one. -/
def takeWholePart? (cs : List Char) : Option (List Char × List Char) :=
  match cs with
  | '0' :: rest => some (['0'], rest)
  | _ => takeGroup? Char.isDigit cs

/-- A point and digits, if both are there. -/
def takeFractionPart (cs : List Char) : Option (List Char) × List Char :=
  match cs with
  | '.' :: rest =>
    (match takeGroup? Char.isDigit rest with
    | some (ds, after) => (some ds, after)
    | none => (none, cs))
  | _ => (none, cs)

/-- An exponent, if it is complete. -/
def takeExponentPart (cs : List Char) : Option Int × List Char :=
  match cs with
  | e :: rest =>
    if e = 'e' || e = 'E' then
      let (negative, digits) := Number.takeSign rest
      match takeGroup? Char.isDigit digits with
      | some (ds, after) =>
        let n : Int := digitsValue ds
        (some (if negative then -n else n), after)
      | none => (none, cs)
    else (none, cs)
  | [] => (none, [])

/-- A decimal number: a whole one, or with a fraction or an exponent a floating-point one. -/
def readDecimal? (cs : List Char) : Option (ReadResult (Value × List Char)) := do
  let (negative, digits) := Number.takeSign cs
  let (whole, rest) ← takeWholePart? digits
  let (fraction, rest) := takeFractionPart rest
  let (exponent, rest) := takeExponentPart rest
  if fraction.isNone && exponent.isNone then
    if maxDigits < whole.length then return .error (.fault .malformed)
    else
      let n : Int := digitsValue whole
      return .ok (.int (if negative then -n else n), rest)
  else
    return .ok (.float (.ofParts negative whole (fraction.getD []) (exponent.getD 0)), rest)

/-- A number; none if there is no digit in front. -/
def readNumber? (cs : List Char) : Option (ReadResult (Value × List Char)) :=
  match readBased? cs with
  | some r => some (.ok r)
  | none => readDecimal? cs

/-- An infinity or an undefined number. -/
def readSpecial? (cs : List Char) : Option (Value × List Char) :=
  let (negative, word) := Number.takeSign cs
  match Json.afterWord? "inf" word with
  | some rest => some (.float (.infinite negative), rest)
  | none => (Json.afterWord? "nan" word).map fun rest => (.float (.undefined 0), rest)

end PropertyFilter.Toml
