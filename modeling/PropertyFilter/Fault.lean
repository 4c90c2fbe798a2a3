/-!
# Faults

A fault is the reason why a value cannot be used the way it is asked for. Faults are not reports
about a configuration: those have types of their own, with a text for the user.

## Main definitions

* `Fault`: the reasons
* `Fault.message`: how they read
* `ReadError`: why a text holds no value
* `maxDigits`: the most digits that a number may have
-/

namespace PropertyFilter

/-- Why a value cannot be used the way it is asked for. -/
inductive Fault where
  /-- A value of this kind does not take part in the operation. -/
  | unsuitable
  /-- A value of this kind has no such operation. -/
  | noSuchOperation
  /-- A value of the right kind, but out of its range or malformed. -/
  | malformed
  /-- Nothing under this key. -/
  | missingKey
  /-- Nothing at this place. -/
  | missingPlace
  /-- A number too large for the operation. -/
  | overflow
  /-- Octets that are no text. -/
  | undecodable
  /-- A home directory that nobody knows. -/
  | unknownHome
  /-- A value that the document format cannot write. -/
  | unrepresentable
  /-- An object that does not take assignments. -/
  | frozen
  /-- A value that this library does not hold: a text with half a character, or a collection that is
  inside itself. -/
  | beyond
  deriving DecidableEq, Repr, Inhabited

/-- How a reason reads. -/
def Fault.message : Fault → String
  | unsuitable => "a value of an unsuitable kind"
  | noSuchOperation => "a value without such an operation"
  | malformed => "a malformed value"
  | missingKey => "a missing key"
  | missingPlace => "a missing place"
  | overflow => "a number too large"
  | undecodable => "octets that are no text"
  | unknownHome => "an unknown home directory"
  | unrepresentable => "a value that cannot be written"
  | frozen => "an object that cannot be changed"
  | beyond => "a value that is not held"

/-! ## Reading -/

/-- Why a text holds no value. -/
inductive ReadError where
  /-- The text is not of the format. -/
  | malformed
  /-- The text is of the format, but a value in it cannot be made. -/
  | fault (f : Fault)
  deriving DecidableEq, Repr, Inhabited

/-- The result of reading. -/
abbrev ReadResult := Except ReadError

/-- The most decimal digits that a whole number may have where it is read or shown. -/
def maxDigits : Nat := 4300

end PropertyFilter
