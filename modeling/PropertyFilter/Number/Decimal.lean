import PropertyFilter.Number.Binary64

/-!
# Decimal text of floating-point numbers

The shortest decimal that reads back as the same number, and decimals rounded to a given number of
digits or places.

## Main definitions

* `shortest`: digits and exponent of the shortest decimal that reads back
* `Binary64.text`: the shortest text of a number
* `Binary64.fixedText`, `Binary64.scientificText`, `Binary64.generalText`: text with a given number
  of places, of mantissa places, of significant digits
* `Binary64.ofChars?`: reading the text of a number
-/

namespace PropertyFilter.Number

/-- The decimal digits of a natural. -/
def digitsText (n : Nat) : List Char := Nat.toDigits 10 n

/-- A positive number `digits * 10 ^ exponent`. -/
structure Decimal where
  digits : Nat
  exponent : Int
  deriving DecidableEq, Repr, Inhabited

/-- An interval of magnitudes, in quarter units; its ends belong to it when it is closed. -/
structure RoundingInterval where
  low : Nat
  high : Nat
  closed : Bool

/-- The magnitudes that round to `units`. The ends are the midpoints to both neighbours and belong
to the interval when the last kept binary digit is even; below a power of two the gap is half. -/
def roundingInterval (units : Nat) : RoundingInterval :=
  let gap := Nat.pow 2 (bitLength units - Binary64.precision)
  let below := if units = Nat.pow 2 (Binary64.precision - 1) * gap ∧ 1 < gap then gap else 2 * gap
  ⟨4 * units - below, 4 * units + 2 * gap, units / gap % 2 == 0⟩

/-- A count on the decimal grid `10 ^ exponent`, compared with a magnitude in quarter units, by
cross-multiplication: both sides as naturals. -/
def gridSides (count : Nat) (exponent : Int) (quarters : Nat) : Nat × Nat :=
  let scaled := count * 4 * Binary64.unitsPerOne
  if 0 ≤ exponent then (scaled * Nat.pow 10 exponent.toNat, quarters)
  else (scaled, quarters * Nat.pow 10 (-exponent).toNat)

/-- Whether a point of a decimal grid rounds to the magnitude of the interval. -/
def RoundingInterval.contains (i : RoundingInterval) (count : Nat) (exponent : Int) : Bool :=
  let (a, low) := gridSides count exponent i.low
  let (_, high) := gridSides count exponent i.high
  (low < a && a < high) || (i.closed && (a == low || a == high))

/-- The whole number of grid steps in a magnitude, with remainder and divisor. -/
def gridFloor (units : Nat) (exponent : Int) : Nat × Nat × Nat :=
  let (num, den) :=
    if 0 ≤ exponent then (units, Binary64.unitsPerOne * Nat.pow 10 exponent.toNat)
    else (units * Nat.pow 10 (-exponent).toNat, Binary64.unitsPerOne)
  (num / den, num % den, den)

/-- The better of the two neighbours of a magnitude on a decimal grid, if one reads back: the
nearer one, in a tie the even one. -/
def neighbour? (i : RoundingInterval) (units : Nat) (exponent : Int) : Option Nat :=
  let (q, r, den) := gridFloor units exponent
  match i.contains q exponent, i.contains (q + 1) exponent with
  | true, true =>
    if 2 * r < den then some q else if den < 2 * r then some (q + 1) else some (q + q % 2)
  | true, false => some q
  | false, true => some (q + 1)
  | false, false => none

/-- The exponent of the leading decimal digit of a positive magnitude. -/
def leadingExponent (units : Nat) : Int :=
  let guess : Int := ((bitLength units : Int) - 1 - Binary64.unitExponent) * 30103 / 100000
  let reaches (e : Int) : Bool :=
    let (a, b) := gridSides 1 e (4 * units)
    a ≤ b
  if reaches (guess + 1) then guess + 1
  else if reaches guess then guess
  else guess - 1

/-- Tries grids of 1, 2, … significant digits until one of them has a point that reads back. -/
def shortestFrom (i : RoundingInterval) (units : Nat) (leading : Int) :
    (digits : Nat) → (tries : Nat) → Decimal
  | n, 0 => ⟨(gridFloor units (leading - n)).1, leading - n⟩
  | n, tries + 1 =>
    match neighbour? i units (leading - n) with
    | some d => ⟨d, leading - n⟩
    | none => shortestFrom i units leading (n + 1) tries

/-- Drops zeros at the end of the digits; `fuel` bounds their number. -/
def Decimal.normalize : (fuel : Nat) → Decimal → Decimal
  | 0, d => d
  | fuel + 1, d =>
    if d.digits ≠ 0 ∧ d.digits % 10 = 0 then normalize fuel ⟨d.digits / 10, d.exponent + 1⟩ else d

/-- The shortest decimal that reads back as a positive magnitude, of those the nearest. -/
def shortest (units : Nat) : Decimal :=
  Decimal.normalize 20 (shortestFrom (roundingInterval units) units (leadingExponent units) 0 20)

/-- Digits with the decimal point after `places` of them from the right. -/
def pointed (digits : List Char) (places : Nat) : List Char :=
  if places = 0 then digits
  else
    let padded := List.replicate (places + 1 - digits.length) '0' ++ digits
    padded.take (padded.length - places) ++ '.' :: padded.drop (padded.length - places)

/-- An exponent with its sign and at least two digits. -/
def exponentText (e : Int) : List Char :=
  let ds := digitsText e.natAbs
  (if e < 0 then '-' else '+') :: (List.replicate (2 - ds.length) '0' ++ ds)

/-- One digit, the point and the other digits, if any. -/
def mantissaText : List Char → List Char
  | [] => []
  | [d] => [d]
  | d :: ds => d :: '.' :: ds

/-- The places at which the shortest text turns to an exponent: it is positional for numbers from
`10 ^ -4` up to `10 ^ 16`. -/
def positional (leading : Int) : Bool := -4 ≤ leading && leading < 16

/-- The text of a positive decimal. -/
def Decimal.text (d : Decimal) : List Char :=
  let ds := digitsText d.digits
  let leading := d.exponent + ds.length - 1
  if positional leading then
    if 0 ≤ d.exponent then ds ++ List.replicate d.exponent.toNat '0' ++ ['.', '0']
    else pointed ds (-d.exponent).toNat
  else mantissaText ds ++ 'e' :: exponentText leading

namespace Binary64

/-- A sign in front of negative numbers. -/
def signText (x : Binary64) : List Char := if x.isNegative then ['-'] else []

/-- The shortest text that reads back as the same number. -/
def text (x : Binary64) : String :=
  match x with
  | .undefined _ => "nan"
  | .infinite s => if s then "-inf" else "inf"
  | .finite s 0 => if s then "-0.0" else "0.0"
  | .finite _ u => String.ofList (x.signText ++ (shortest u).text)

/-- The digits of a finite magnitude with `places` decimal places. -/
def fixedDigits (units places : Nat) : List Char :=
  pointed (digitsText (roundDiv (units * Nat.pow 10 places) unitsPerOne)) places

/-- A positive magnitude rounded to `digits` significant digits: the digits and the exponent of
the first. -/
def significant (units digits : Nat) : Nat × Int :=
  let leading := leadingExponent units
  let e : Int := leading - (digits - 1 : Nat)
  let (q, r, den) := gridFloor units e
  let rounded := roundDiv (q * den + r) den
  if decimalLength rounded > digits then (rounded / 10, leading + 1) else (rounded, leading)

/-- The magnitude's text with a fixed number of decimal places. -/
def fixedText (x : Binary64) (places : Nat) : List Char :=
  match x with
  | .undefined _ => "nan".toList
  | .infinite _ => "inf".toList
  | .finite _ u => fixedDigits u places

/-- The magnitude's text with an exponent and a number of places in the mantissa. -/
def scientificText (x : Binary64) (places : Nat) : List Char :=
  match x with
  | .undefined _ => "nan".toList
  | .infinite _ => "inf".toList
  | .finite _ 0 => mantissaText (List.replicate (places + 1) '0') ++ 'e' :: exponentText 0
  | .finite _ u =>
    let (m, e) := significant u (places + 1)
    mantissaText (digitsText m) ++ 'e' :: exponentText e

/-- Removes zeros at the end of the places, and a point left alone. -/
def dropTrailingZeros (cs : List Char) : List Char :=
  if cs.contains '.' then
    let kept := cs.reverse.dropWhile (· = '0')
    (match kept with
      | '.' :: rest => rest
      | other => other).reverse
  else cs

/-- The magnitude's text with a number of significant digits: positional from `10 ^ -4` up to that
many digits, else with an exponent. `keepZeros` keeps zeros at the end. -/
def generalText (x : Binary64) (digits : Nat) (keepZeros : Bool) : List Char :=
  let tidy := fun cs => if keepZeros then cs else dropTrailingZeros cs
  let digits := max digits 1
  match x with
  | .undefined _ => "nan".toList
  | .infinite _ => "inf".toList
  | .finite _ 0 => tidy (pointed (List.replicate digits '0') (digits - 1))
  | .finite _ u =>
    let (m, e) := significant u digits
    if -4 ≤ e && e < digits then
      tidy (pointed (digitsText m) ((digits - 1 : Nat) - e).toNat)
    else tidy (mantissaText (digitsText m)) ++ 'e' :: exponentText e

end Binary64

/-- The value of a row of decimal digits. -/
def digitsValue (ds : List Char) : Nat :=
  ds.foldl (fun n c => n * 10 + (c.toNat - '0'.toNat)) 0

/-- The number written by whole digits, digits after the point and an exponent. -/
def Binary64.ofParts (negative : Bool) (whole fraction : List Char) (exponent : Int) : Binary64 :=
  .ofDecimal negative (digitsValue (whole ++ fraction)) (exponent - fraction.length)

/-- An optional sign in front of a text. -/
def takeSign : List Char → Bool × List Char
  | '-' :: cs => (true, cs)
  | '+' :: cs => (false, cs)
  | cs => (false, cs)

/-- An exponent: an optional sign and at least one digit. -/
def readExponent? (cs : List Char) : Option Int :=
  let (negative, ds) := takeSign cs
  if ds.isEmpty || !ds.all Char.isDigit then none
  else
    let n := digitsValue ds
    some (if negative then -(n : Int) else n)

/-- An unsigned decimal: digits, an optional point with digits, an optional exponent; at least one
digit before or after the point. -/
def readUnsigned? (negative : Bool) (cs : List Char) : Option Binary64 :=
  let whole := cs.takeWhile Char.isDigit
  let rest := cs.dropWhile Char.isDigit
  let (fraction, rest) := match rest with
    | '.' :: r => (r.takeWhile Char.isDigit, r.dropWhile Char.isDigit)
    | r => ([], r)
  if whole.isEmpty && fraction.isEmpty then none
  else match rest with
    | [] => some (.ofParts negative whole fraction 0)
    | c :: r =>
      if c = 'e' || c = 'E' then (readExponent? r).map (.ofParts negative whole fraction)
      else none

/-- Reads the text of a number: a decimal, `inf`, `infinity` or `nan`, with an optional sign. -/
def Binary64.ofChars? (cs : List Char) : Option Binary64 :=
  let (negative, rest) := takeSign cs
  let word := String.ofList (rest.map Char.toLower)
  if word = "inf" || word = "infinity" then some (.infinite negative)
  else if word = "nan" then some (.undefined 0)
  else readUnsigned? negative rest

end PropertyFilter.Number
