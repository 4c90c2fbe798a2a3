import PropertyFilter.Value.Basic

/-!
# When two values are the same

Values are compared by content. Truth values, whole numbers and floating-point numbers are compared
by their exact numeric value, so `1`, `true` and `1.0` are the same; an undefined number is the same
as itself only. Sets and mappings are compared without regard to order. Labels do not count, and
neither does whether a set is frozen or a mapping a view.

## Main definitions

* `Numeric`, `Value.numeric?`: the exact numeric value
* `Value.same`: sameness of two values
* `Value.memberOf`, `distinct`: membership and removal of repetitions up to sameness
-/

namespace PropertyFilter

open Number (Binary64)

/-- The exact value of a number. -/
inductive Numeric where
  /-- A finite value, counted in units of `2 ^ -1074`. -/
  | exact (units : Int)
  | infinite (negative : Bool)
  | undefined (mark : Nat)
  deriving DecidableEq, Repr

namespace Value

/-- The exact value of a floating-point number. -/
def floatNumeric : Binary64 → Numeric
  | .finite negative u => .exact (if negative then -(u : Int) else u)
  | .infinite negative => .infinite negative
  | .undefined mark => .undefined mark

/-- The numeric value of a truth value, a whole number or a floating-point number. -/
def numeric? : Value → Option Numeric
  | bool b => some (.exact (if b then Binary64.unitsPerOne else 0))
  | int n => some (.exact (n * Binary64.unitsPerOne))
  | float x => some (floatNumeric x)
  | _ => none

/-- Ranges are the same when they yield the same numbers. -/
def sameRange (a b c a' b' c' : Int) : Bool :=
  let n := rangeSize a b c
  n == rangeSize a' b' c' && (n == 0 || (a == a' && (n == 1 || c == c')))

mutual

/-- Sameness of two values. -/
def same : Value → Value → Bool
  | null, null => true
  | text s, text t => s == t
  | octets _ a, octets _ b => a == b
  | list _ xs, list _ ys => sameItems xs ys
  | tuple _ xs, tuple _ ys => sameItems xs ys
  | set _ _ xs, set _ _ ys => xs.length == ys.length && allIn xs ys
  | mapping _ _ xs, mapping _ _ ys => xs.length == ys.length && allEntriesIn xs ys
  | range a b c, range a' b' c' => sameRange a b c a' b' c'
  | type n i, type m j => n == m && i == j
  | object _ i, object _ j => i == j
  | date _ d, date _ e => d == e
  | moment _ m, moment _ n => m.same n
  | clock _ t, clock _ u => t == u
  | v, w =>
    match v.numeric?, w.numeric? with
    | some x, some y => x == y
    | _, _ => false

/-- Sameness of two rows of values, member by member. -/
def sameItems : List Value → List Value → Bool
  | [], [] => true
  | x :: xs, y :: ys => same x y && sameItems xs ys
  | _, _ => false

/-- Every value of the first row is the same as one of the second. -/
def allIn : List Value → List Value → Bool
  | [], _ => true
  | x :: xs, ys => ys.any (fun y => same x y) && allIn xs ys

/-- Every entry of the first row is the same as one of the second, in key and value. -/
def allEntriesIn : List (Value × Value) → List (Value × Value) → Bool
  | [], _ => true
  | (k, v) :: xs, ys => ys.any (fun e => same k e.1 && same v e.2) && allEntriesIn xs ys

end

/-- Membership in a row of values, up to sameness. -/
def memberOf (v : Value) (vs : List Value) : Bool := vs.any fun w => same w v

@[simp] theorem memberOf_nil (v : Value) : v.memberOf [] = false := rfl

theorem memberOf_cons (v w : Value) (ws : List Value) :
    v.memberOf (w :: ws) = (same w v || v.memberOf ws) := rfl

theorem memberOf_append (v : Value) (ws xs : List Value) :
    v.memberOf (ws ++ xs) = (v.memberOf ws || v.memberOf xs) := by
  simp [memberOf, List.any_append]

@[simp] theorem same_text (s t : String) : same (text s) (text t) = (s == t) := by
  simp [same]

end Value

/-- Adds a value at the end unless it is there already. -/
def insertDistinct (vs : List Value) (v : Value) : List Value :=
  if v.memberOf vs then vs else vs ++ [v]

/-- The values without repetitions, in order of first occurrence. -/
def distinct (vs : List Value) : List Value := vs.foldl insertDistinct []

@[simp] theorem distinct_nil : distinct [] = [] := rfl

end PropertyFilter
