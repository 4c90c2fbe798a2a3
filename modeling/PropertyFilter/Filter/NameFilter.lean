import PropertyFilter.Filter.Notice
import PropertyFilter.Filter.Shape
import PropertyFilter.Value.Digest
import PropertyFilter.Value.Display
import PropertyFilter.Value.Entries
import PropertyFilter.Value.Order

/-!
# Name filters

A name filter is a set of property names that match on any owner, and rows of names that match only
on owners of one type. Types are known by their simple names, so two types of one simple name
cannot be told apart.

## Main definitions

* `NameFilter`: the filters
* `NameFilter.fromConfiguration`: the filter that a loosely typed value configures
* `NameFilter.ofParts`: the filter with given names
* `NameFilter.namesFor`, `NameFilter.matchesType`, `NameFilter.matchesOwner`: queries
* `NameFilter.snapshot`: the plain value that describes a filter
* `NameFilter.same`, `NameFilter.digest`: equality and digest
-/

namespace PropertyFilter

/-- Property names that match on any owner, and names that match on owners of one type. -/
structure NameFilter where
  /-- The names that match on any owner, without repetitions. -/
  globalNames : List Value
  /-- The names that match on owners of a type, under the simple name of the type. -/
  namesByType : Entries (List Value)
  deriving Repr, Inhabited

namespace NameFilter

/-- The filter with no names. -/
def empty : NameFilter := ⟨[], []⟩

/-- Makes a filter; names that match on any owner have to be hashable. -/
def make (globalNames : List Value) (namesByType : Entries (List Value)) :
    Except Fault NameFilter :=
  if Value.allHashable globalNames then .ok ⟨distinct globalNames, namesByType⟩
  else .error .unsuitable

/-! ### From a configuration value -/

/-- What becomes of one entry of a type mapping. -/
inductive EntryFate where
  /-- The entry is passed over, with a notice. -/
  | skipped (notice : Notice)
  /-- The entry has no names and leaves no trace. -/
  | void
  /-- The entry's names are stored under the type. -/
  | stored (typeKey : String) (names : List Value)
  deriving Repr, Inhabited

/-- What becomes of an entry. -/
def entryFate (key value : Value) : EntryFate :=
  match typeKey? key with
  | none => .skipped (.skippedKey key.shown)
  | some t =>
    match propertyNames? value with
    | none => .skipped (.skippedNames t value.typeName)
    | some [] => .void
    | some (n :: ns) => .stored t (n :: ns)

/-- The notice that an entry gives rise to. -/
def EntryFate.notice? : EntryFate → Option Notice
  | .skipped n => some n
  | _ => none

/-- Stores the names of an entry in place of those of an earlier entry for the same type. -/
def EntryFate.store (types : Entries (List Value)) : EntryFate → Entries (List Value)
  | .stored t names => Entries.insert (.text t) names types
  | _ => types

/-- What becomes of the entries of a mapping, in order. -/
def entryFates (entries : List (Value × Value)) : List EntryFate :=
  entries.map fun e => entryFate e.1 e.2

/-- The names by type that the entries of a mapping configure. -/
def typesOf (entries : List (Value × Value)) : Entries (List Value) :=
  (entryFates entries).foldl EntryFate.store []

/-- The notices about the entries of a mapping. -/
def noticesOf (entries : List (Value × Value)) : List Notice :=
  (entryFates entries).filterMap EntryFate.notice?

/-- The global names that a shape adds to the default ones. -/
def globalNamesOf : Shape → List Value
  | .names s => listedNames s
  | _ => []

/-- The names by type that a shape configures. -/
def namesByTypeOf : Shape → Entries (List Value)
  | .types entries => typesOf entries
  | _ => []

/-- The notices about a shape. -/
def shapeNotices : Shape → List Notice
  | .names _ => []
  | .types entries => noticesOf entries
  | .unsupported .null => []
  | .unsupported v => [.ignoredFilter v.typeName]

/-- The filter that a value configures, with default names that match on any owner. -/
def fromConfiguration (raw : Value) (defaults : List Value) : Noticed Fault NameFilter :=
  let shape := Shape.ofValue raw
  ⟨shapeNotices shape, make (defaults ++ globalNamesOf shape) (namesByTypeOf shape)⟩

/-! ### From parts -/

/-- Copies the rows of names out of the entries of a mapping. -/
def copyRows : List (Value × Value) → Except Fault (Entries (List Value))
  | [] => .ok []
  | (k, v) :: es =>
    match v.members? with
    | none => .error .unsuitable
    | some names =>
      match copyRows es with
      | .ok rows => .ok ((k, names) :: rows)
      | .error e => .error e

/-- The filter with the members of one value as global names and the entries of another, a
mapping, as names by type. Parts not given are empty. -/
def ofParts (globalNames namesByType : Option Value) : Except Fault NameFilter :=
  match (globalNames.map Value.members?).getD (some []) with
  | none => .error .unsuitable
  | some names =>
    if !Value.allHashable names then .error .unsuitable
    else match (namesByType.map Value.entries?).getD (some []) with
      | none => .error .noSuchOperation
      | some entries =>
        match copyRows entries with
        | .error e => .error e
        | .ok rows => make names rows

/-! ### Queries -/

/-- No names at all. -/
def isEmpty (f : NameFilter) : Bool := f.globalNames.isEmpty && f.namesByType.isEmpty

/-- The names stored under the simple name of a type. -/
def namesUnder (f : NameFilter) (typeName : String) : List Value :=
  (Entries.findText? f.namesByType typeName).getD []

/-- The names that match on owners of a type, which is given by name or as a type. -/
def namesFor (f : NameFilter) (typeId : Value) : List Value :=
  match typeKey? typeId with
  | none => []
  | some t => f.namesUnder t

/-- Whether a value is looked up in a set: it has to be hashable, or a set itself. -/
def isSearchable (v : Value) : Bool :=
  v.isHashable || (match v with
    | .set _ _ _ => true
    | _ => false)

/-- Whether a name is among the global names. -/
def matchesAny (f : NameFilter) (name : Value) : Except Fault Bool :=
  if isSearchable name then .ok (name.memberOf f.globalNames) else .error .unsuitable

/-- Whether a name matches globally or is among the given names; no name matches nothing. -/
def matchesAmong (f : NameFilter) (names : List Value) (name : Value) : Except Fault Bool :=
  match name with
  | .null => .ok false
  | _ =>
    match f.matchesAny name with
    | .ok matched => .ok (matched || name.memberOf names)
    | .error e => .error e

/-- Whether a name matches on owners of a type, which is given by name or as a type. -/
def matchesType (f : NameFilter) (typeId name : Value) : Except Fault Bool :=
  f.matchesAmong (f.namesFor typeId) name

/-- Whether a name matches on an owner; with no owner, only global names match. -/
def matchesOwner (f : NameFilter) (owner name : Value) : Except Fault Bool :=
  f.matchesAmong (match owner with
    | .null => []
    | _ => f.namesUnder owner.typeName) name

/-- Whether a text names a property that matches on owners of a type. -/
def matchesText (f : NameFilter) (typeId : Value) (name : String) : Bool :=
  (Value.text name).memberOf f.globalNames || (Value.text name).memberOf (f.namesFor typeId)

theorem matchesType_text (f : NameFilter) (typeId : Value) (name : String) :
    f.matchesType typeId (.text name) = .ok (f.matchesText typeId name) := by
  simp [matchesType, matchesAmong, matchesAny, isSearchable, matchesText]

/-! ### Descriptions, equality -/

/-- The global names in increasing order, if they have one. -/
def sortedNames (f : NameFilter) : Except Fault (List Value) :=
  match sorted? f.globalNames with
  | some names => .ok names
  | none => .error .unsuitable

/-- A plain mapping made of text keys. -/
def plainMapping (entries : List (String × Value)) : Value :=
  .mapping none false (entries.map fun e => (.text e.1, e.2))

/-- The names by type as a plain mapping to rows. -/
def typesSnapshot (f : NameFilter) : Value :=
  .mapping none false (f.namesByType.map fun e => (e.1, .list none e.2))

/-- The plain value that describes a filter. -/
def snapshot (f : NameFilter) : Except Fault Value :=
  match f.sortedNames with
  | .ok names => .ok (plainMapping [("global", .list none names), ("types", f.typesSnapshot)])
  | .error e => .error e

/-- Filters are the same when their global names are the same as sets and their names by type are
the same as mappings to rows. -/
def same (f g : NameFilter) : Bool :=
  f.globalNames.length == g.globalNames.length && Value.allIn f.globalNames g.globalNames
    && f.namesByType.length == g.namesByType.length
    && f.namesByType.all fun e =>
      g.namesByType.any fun e' => e.1.same e'.1 && Value.sameItems e.2 e'.2

/-- The digest of a filter is that of a tuple that holds the set of its global names. -/
def digest (f : NameFilter) : Int := tupleDigest [setDigest f.globalNames]

@[simp] theorem isEmpty_empty : empty.isEmpty = true := rfl

@[simp] theorem matchesAmong_null (f : NameFilter) (names : List Value) :
    f.matchesAmong names .null = .ok false := rfl

@[simp] theorem typesOf_nil : typesOf [] = [] := rfl

@[simp] theorem noticesOf_nil : noticesOf [] = [] := rfl

end NameFilter

end PropertyFilter
