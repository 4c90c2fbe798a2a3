/-!
# Binary floating-point numbers

The numbers of the 64-bit binary interchange format. A finite magnitude is counted in units of
the smallest positive number, `2 ^ -1074`, so comparison, addition and multiplication are exact
arithmetic on naturals followed by one rounding.

## Main definitions

* `roundDiv`: a quotient rounded to the nearest whole number, ties to the even neighbour
* `Binary64`: the numbers, with signed zeros, infinities and undefined results
* `Binary64.ofRatio`, `Binary64.ofDecimal`: the nearest number to a fraction, to a decimal
* `Binary64.add`, `Binary64.mul`: correctly rounded sum and product
* `Binary64.truncate?`: the whole part
-/

namespace PropertyFilter.Number

/-- The quotient rounded to the nearest whole number; a tie goes to the even neighbour. -/
def roundDiv (num den : Nat) : Nat :=
  let q := num / den
  let r := num % den
  if 2 * r < den then q
  else if den < 2 * r then q + 1
  else q + q % 2

/-- The number of binary digits of a number; none for zero. -/
def bitLength (n : Nat) : Nat := if n = 0 then 0 else Nat.log2 n + 1

@[simp] theorem bitLength_zero : bitLength 0 = 0 := rfl

/-- A number of the 64-bit binary format. -/
inductive Binary64 where
  /-- A finite number: its sign and its magnitude in units of `2 ^ -1074`. -/
  | finite (negative : Bool) (units : Nat)
  | infinite (negative : Bool)
  /-- The result of an undefined operation; the mark tells one from another. -/
  | undefined (mark : Nat)
  deriving DecidableEq, Repr, Inhabited

namespace Binary64

/-- The exponent of the unit, negated. -/
def unitExponent : Nat := 1074

/-- How many units make one. -/
def unitsPerOne : Nat := Nat.pow 2 unitExponent

/-- The number of binary digits that a magnitude keeps. -/
def precision : Nat := 53

/-- The least magnitude, in units, that is out of range. -/
def overflowUnits : Nat := Nat.pow 2 (1024 + unitExponent)

/-- A magnitude in units, or an infinity when it is out of range. -/
def ofUnits (negative : Bool) (units : Nat) : Binary64 :=
  if overflowUnits ≤ units then .infinite negative else .finite negative units

/-- The number nearest to `num / den` units; a tie goes to the even neighbour. -/
def ofUnitRatio (negative : Bool) (num den : Nat) : Binary64 :=
  let gap := Nat.pow 2 (bitLength (num / den) - precision)
  ofUnits negative (roundDiv num (den * gap) * gap)

/-- The number nearest to the fraction `num / den`. -/
def ofRatio (negative : Bool) (num den : Nat) : Binary64 :=
  ofUnitRatio negative (num * unitsPerOne) den

/-- The number of decimal digits of a natural. -/
def decimalLength (n : Nat) : Nat := (Nat.toDigits 10 n).length

/-- The number nearest to `digits * 10 ^ exponent`. Exponents so large or so small that the result
is out of range either way are not expanded. -/
def ofDecimal (negative : Bool) (digits : Nat) (exponent : Int) : Binary64 :=
  if digits = 0 then .finite negative 0
  else
    let size := (decimalLength digits : Int) + exponent
    if 400 < size then .infinite negative
    else if size < -400 then .finite negative 0
    else if 0 ≤ exponent then ofRatio negative (digits * Nat.pow 10 exponent.toNat) 1
    else ofRatio negative digits (Nat.pow 10 (-exponent).toNat)

/-- The number nearest to a whole number. -/
def ofInt (n : Int) : Binary64 := ofRatio (n < 0) n.natAbs 1

/-- The signed magnitude in units of a finite number. -/
def units? : Binary64 → Option Int
  | .finite true u => some (-(u : Int))
  | .finite false u => some u
  | _ => none

/-- The sign bit; undefined results carry none. -/
def isNegative : Binary64 → Bool
  | .finite s _ => s
  | .infinite s => s
  | .undefined _ => false

/-- The number with the opposite sign. -/
def neg : Binary64 → Binary64
  | .finite s u => .finite (!s) u
  | .infinite s => .infinite (!s)
  | .undefined m => .undefined m

/-- A signed count of fractions of a unit, rounded; an exact zero has a positive sign. -/
def ofSigned (num : Int) (den : Nat) : Binary64 :=
  ofUnitRatio (num < 0) num.natAbs den

/-- The correctly rounded sum. -/
def add : Binary64 → Binary64 → Binary64
  | .undefined m, _ => .undefined m
  | _, .undefined m => .undefined m
  | .infinite s, .infinite t => if s = t then .infinite s else .undefined 0
  | .infinite s, _ => .infinite s
  | _, .infinite t => .infinite t
  | .finite true 0, .finite true 0 => .finite true 0
  | .finite s u, .finite t v =>
    ofSigned ((if s then -(u : Int) else u) + (if t then -(v : Int) else v)) 1

/-- The correctly rounded product. -/
def mul : Binary64 → Binary64 → Binary64
  | .undefined m, _ => .undefined m
  | _, .undefined m => .undefined m
  | .infinite s, .infinite t => .infinite (s != t)
  | .infinite s, .finite t v => if v = 0 then .undefined 0 else .infinite (s != t)
  | .finite s u, .infinite t => if u = 0 then .undefined 0 else .infinite (s != t)
  | .finite s u, .finite t v => ofUnitRatio (s != t) (u * v) unitsPerOne

/-- The whole part, towards zero; none for infinities and undefined results. -/
def truncate? (x : Binary64) : Option Int :=
  x.units?.map fun u => u.tdiv (unitsPerOne : Int)

/-- Whether the number is zero, of either sign. -/
def isZero : Binary64 → Bool
  | .finite _ 0 => true
  | _ => false

@[simp] theorem neg_neg (x : Binary64) : x.neg.neg = x := by
  cases x <;> simp [neg]

@[simp] theorem units?_infinite (s : Bool) : (infinite s).units? = none := rfl

@[simp] theorem units?_undefined (m : Nat) : (undefined m).units? = none := rfl

end Binary64

end PropertyFilter.Number
