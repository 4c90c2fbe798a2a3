import PropertyFilter.Filter.NameFilter

/-!
# Output filters

The output of a serializer is filtered by a pair of name filters: the properties to leave out and
the properties to keep. Both are configured by one mapping.

## Main definitions

* `Side`: the two filters of a pair
* `OutputFilters`: the pairs
* `OutputFilters.build`: the pair that a mapping configures
* `ArgumentError`: why there is none
-/

namespace PropertyFilter

/-- One of the two filters. -/
inductive Side where
  | excludes
  | includes
  deriving DecidableEq, Repr, Inhabited

namespace Side

/-- The key of a side in a configuration. -/
def key : Side → String
  | excludes => "excludes"
  | includes => "includes"

/-- The names that a side always holds: reflective metadata is never rendered. -/
def builtIn : Side → List Value
  | excludes => [.text "class", .text "metaClass", .text "declaringClass"]
  | includes => []

end Side

/-- Why a value configures no filters. -/
inductive ArgumentError where
  | missing
  | notAMapping (typeName : String)
  deriving DecidableEq, Repr, Inhabited

/-- The text of the report. -/
def ArgumentError.message : ArgumentError → String
  | missing => "Argument 'configuration' must not be null!"
  | notAMapping typeName => "Argument 'configuration' must be a mapping, got " ++ typeName

/-- Why building fails: the configuration is no mapping, or an extra name cannot be used. -/
inductive BuildError where
  | argument (e : ArgumentError)
  | fault (f : Fault)
  deriving DecidableEq, Repr, Inhabited

/-- The properties to leave out and the properties to keep. -/
structure OutputFilters where
  excludes : NameFilter
  includes : NameFilter
  deriving Repr, Inhabited

namespace OutputFilters

/-- The filter of a side. -/
def side (c : OutputFilters) : Side → NameFilter
  | .excludes => c.excludes
  | .includes => c.includes

/-- The entries of a configuration, which has to be a mapping. -/
def entriesOf : Value → Except ArgumentError (List (Value × Value))
  | .mapping _ _ entries => .ok entries
  | .null => .error .missing
  | v => .error (.notAMapping v.typeName)

/-- What one side of a configuration is read from; an absent side is nothing. -/
def sideValue (entries : List (Value × Value)) (s : Side) : Value :=
  (Entries.findText? entries s.key).getD .null

/-- The filter that one side of a configuration describes, with extra names that match on any
owner. -/
def buildSide (entries : List (Value × Value)) (s : Side) (extra : Value) :
    Noticed BuildError NameFilter :=
  match extra.members? with
  | none => .ofExcept (.error (.fault .unsuitable))
  | some names =>
    (NameFilter.fromConfiguration (sideValue entries s) (s.builtIn ++ names)).mapError .fault

/-- The notice that a pair of filters is complete. -/
def completion (excludes includes : NameFilter) : Notice :=
  .configured excludes.globalNames.length excludes.namesByType.length
    includes.globalNames.length includes.namesByType.length

/-- The filters that the entries of a configuration describe. -/
def buildEntries (entries : List (Value × Value)) (extraExcludes extraIncludes : Value) :
    Noticed BuildError OutputFilters := do
  let excludes ← buildSide entries .excludes extraExcludes
  let includes ← buildSide entries .includes extraIncludes
  Noticed.note (completion excludes includes)
  return ⟨excludes, includes⟩

/-- The filters that a configuration describes, with extra names for both sides. -/
def build (configuration extraExcludes extraIncludes : Value) :
    Noticed BuildError OutputFilters :=
  match entriesOf configuration with
  | .error e => .ofExcept (.error (.argument e))
  | .ok entries => buildEntries entries extraExcludes extraIncludes

/-- No extra names. -/
def noExtras : Value := .tuple none []

/-- The configuration that is taken when none is given. -/
def noConfiguration : Value := .mapping none true []

/-- The plain value that describes both filters. -/
def snapshot (c : OutputFilters) : Except Fault Value :=
  match c.excludes.snapshot, c.includes.snapshot with
  | .ok e, .ok i =>
    .ok (NameFilter.plainMapping [(Side.excludes.key, e), (Side.includes.key, i)])
  | .error e, _ => .error e
  | _, .error e => .error e

/-- Pairs are the same when both filters are. -/
def same (c d : OutputFilters) : Bool := c.excludes.same d.excludes && c.includes.same d.includes

/-- The digest of a pair is that of a tuple of both filters. -/
def digest (c : OutputFilters) : Int := tupleDigest [c.excludes.digest, c.includes.digest]

end OutputFilters

end PropertyFilter
