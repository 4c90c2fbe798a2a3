import PropertyFilter.Value.Same

/-!
# Digests

A digest is a number that values have in common when they are the same. A number's digest is its
value modulo the prime `2 ^ 61 - 1`, which makes sense of binary fractions as well; that of a set
does not depend on the order of its members. Minus one shares the digest of minus two, a text that
of its octets, and a range that of the tuple that describes it.

## Main definitions

* `Value.digest`: the digest of a value
* `setDigest`, `tupleDigest`: the digests of a set and of a tuple
-/

namespace PropertyFilter

/-- The prime to which digests are reduced. -/
def digestModulus : Nat := Nat.pow 2 61 - 1

/-- Two to the power `-1074` modulo the prime. -/
def unitResidue : Nat := Nat.pow 2 24

/-- The digest of a number. -/
def Numeric.digest : Numeric → Int
  | .exact u =>
    let r : Int := u.sign * (u.natAbs * unitResidue % digestModulus : Nat)
    if r = -1 then -2 else r
  | .infinite negative => if negative then -314159 else 314159
  | .undefined mark => (Nat.pow 2 62 + mark : Nat)

/-- Blends a digest into an accumulated one; the order matters. -/
def blend (acc : Int) (d : Int) : Int := (acc * 1000003 + d * 69069 + 12345) % digestModulus

/-- Spreads a digest before it is added to others. -/
def spread (d : Int) : Int :=
  ((d * 362437 + 89869747) * d + 5783321) * (d + 521288629) % digestModulus

/-- The digest of a row of octets; the empty one shares it with zero. -/
def octetDigest (bs : List UInt8) : Int :=
  match bs with
  | [] => 0
  | b :: bs => (b :: bs).foldl (fun acc x => blend acc x.toNat) 5381

/-- The last `width` octets of a number, the lowest first. -/
def lowOctets : (width : Nat) → Nat → List UInt8
  | 0, _ => []
  | w + 1, n => UInt8.ofNat (n % 256) :: lowOctets w (n / 256)

/-- How many octets each character of a text takes: as few as all of them fit into. -/
def octetWidth (cs : List Char) : Nat :=
  if cs.all (·.toNat < 0x100) then 1 else if cs.all (·.toNat < 0x10000) then 2 else 4

/-- The digest of a text is that of the octets of its characters, which all take the same number. -/
def textDigest (s : String) : Int :=
  let cs := s.toList
  octetDigest (cs.flatMap fun c => lowOctets (octetWidth cs) c.toNat)

/-- The digest of a whole number. -/
def intDigest (n : Int) : Int := (Numeric.exact (n * Number.Binary64.unitsPerOne)).digest

/-- The digest of nothing. -/
def nullDigest : Int := 4238894

/-- The digest of a row of digests, in order. -/
def rowDigest : List Int → Int
  | [] => 0
  | d :: ds => blend (rowDigest ds) d

/-- The digest of a tuple whose members have the given digests. -/
def tupleDigest (ds : List Int) : Int := blend 3011 (rowDigest ds)

namespace Value

/-- The digest of a range is that of a tuple of its size, its start and its step, as far as they
count. -/
def rangeDigest (start stop step : Int) : Int :=
  let n := rangeSize start stop step
  tupleDigest [intDigest n, if n = 0 then nullDigest else intDigest start,
    if n ≤ 1 then nullDigest else intDigest step]

mutual

/-- The digest of a value. -/
def digest : Value → Int
  | null => nullDigest
  | text s => textDigest s
  | octets _ bs => octetDigest bs
  | list _ items => blend 3001 (rowDigest (digests items))
  | tuple _ items => tupleDigest (digests items)
  | set _ _ items => blend 3019 (digestSum items)
  | mapping _ _ entries => blend 3023 (digestEntries entries)
  | range a b c => rangeDigest a b c
  | type name serial => blend (blend 3041 serial) (textDigest name)
  | object _ serial => blend 3049 serial
  | date _ d => blend 3061 d.dayNumber
  | moment _ m => blend 3067 m.instant
  | clock _ t => blend 3079 t.microseconds
  | bool b => (Numeric.exact (if b then Number.Binary64.unitsPerOne else 0)).digest
  | int n => intDigest n
  | float x => (floatNumeric x).digest

/-- The digests of a row. -/
def digests : List Value → List Int
  | [] => []
  | v :: vs => digest v :: digests vs

/-- The digest of a row, in any order. -/
def digestSum : List Value → Int
  | [] => 0
  | v :: vs => spread (digest v) + digestSum vs

/-- The digest of entries, in any order. -/
def digestEntries : List (Value × Value) → Int
  | [] => 0
  | (k, v) :: es => spread (blend (digest k) (digest v)) + digestEntries es

end

end Value

/-- The digest of a set with the given members. -/
def setDigest (vs : List Value) : Int := blend 3019 (Value.digestSum vs)

end PropertyFilter
