import PropertyFilter.Filter.OutputFilters
import PropertyFilter.Terminal.Color

/-!
# Verdicts on properties

A verdict says of a property, on owners of a type or on any owner, whether it is excluded and
whether it is included.

## Main definitions

* `Verdict`, `Verdict.line`: verdicts and how they read
* `OutputFilters.verdict`: the verdict of a pair of filters
-/

namespace PropertyFilter

open Terminal (ColorState)

/-- What a pair of filters says of a property. -/
structure Verdict where
  excluded : Bool
  included : Bool
  deriving DecidableEq, Repr, Inhabited

namespace OutputFilters

/-- The type of a verdict as filters know it: its name, or nothing. -/
def typeIdOf (typeName : Option String) : Value := (typeName.map Value.text).getD .null

/-- The verdict on a property of owners of a type. -/
def verdict (c : OutputFilters) (typeName : Option String) (name : Value) :
    Except Fault Verdict := do
  let excluded ← c.excludes.matchesType (typeIdOf typeName) name
  let included ← c.includes.matchesType (typeIdOf typeName) name
  return ⟨excluded, included⟩

end OutputFilters

namespace Verdict

/-- The owner as a verdict names it: any owner is a star. -/
def owner (typeName : Option String) : String :=
  match typeName with
  | none | some "" => "*"
  | some t => t

/-- How a verdict reads. -/
def line (color : ColorState) (typeName : Option String) (name : Value) (v : Verdict) : String :=
  owner typeName ++ "." ++ name.plain ++ ": "
    ++ color.verdict v.excluded "excluded" "not excluded" ++ ", "
    ++ color.verdict v.included "included" "not included"

end Verdict

/-- The line that describes a property of owners of a type. -/
def describeProperty (color : ColorState) (c : OutputFilters) (typeName : Option String)
    (name : Value) : Except Fault String :=
  (c.verdict typeName name).map (Verdict.line color typeName name)

end PropertyFilter
