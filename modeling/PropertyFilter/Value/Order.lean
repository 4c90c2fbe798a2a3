import PropertyFilter.Value.Same

/-!
# Order of values

Numbers are ordered by value, texts by code points, octets by their numbers, rows of one kind
lexicographically, and sets by inclusion. Values of other kinds, or of two different kinds, have
no order, and a row that holds two of them cannot be sorted.

## Main definitions

* `Value.less?`: whether one value comes before another, if they have an order
* `sorted?`: the values in increasing order
-/

namespace PropertyFilter

/-- Whether one number is below another; undefined numbers are below nothing. -/
def Numeric.less : Numeric → Numeric → Bool
  | .exact a, .exact b => a < b
  | .exact _, .infinite negative => !negative
  | .infinite negative, .exact _ => negative
  | .infinite a, .infinite b => a && !b
  | _, _ => false

namespace Value

mutual

/-- Whether the first value comes before the second, if they have an order. -/
def less? : Value → Value → Option Bool
  | text s, text t => some (decide (s < t))
  | octets _ a, octets _ b => some (decide (a < b))
  | list _ xs, list _ ys => lessItems? xs ys
  | tuple _ xs, tuple _ ys => lessItems? xs ys
  | set _ _ xs, set _ _ ys => some (decide (xs.length < ys.length) && allIn xs ys)
  | date _ a, date _ b => some (decide (a.dayNumber < b.dayNumber))
  | clock _ a, clock _ b => some (decide (a.microseconds < b.microseconds))
  | moment _ a, moment _ b =>
    if a.offset.isSome == b.offset.isSome then some (decide (a.instant < b.instant)) else none
  | v, w =>
    match v.numeric?, w.numeric? with
    | some x, some y => some (x.less y)
    | _, _ => none

/-- The first difference decides between two rows; a row comes before its extensions. -/
def lessItems? : List Value → List Value → Option Bool
  | _, [] => some false
  | [], _ :: _ => some true
  | x :: xs, y :: ys => if same x y then lessItems? xs ys else less? x y

end

end Value

/-- Puts a value before the first of a sorted row that it comes before. -/
def insertSorted? (v : Value) : List Value → Option (List Value)
  | [] => some [v]
  | w :: ws => do
    if ← v.less? w then some (v :: w :: ws)
    else return w :: (← insertSorted? v ws)

/-- The values in increasing order; none if two of them have no order. -/
def sorted? : List Value → Option (List Value)
  | [] => some []
  | v :: vs => do insertSorted? v (← sorted? vs)

@[simp] theorem sorted?_nil : sorted? [] = some [] := rfl

@[simp] theorem sorted?_singleton (v : Value) : sorted? [v] = some [v] := rfl

end PropertyFilter
