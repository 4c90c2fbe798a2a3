import PropertyFilter.Filter.OutputFilters
import PropertyFilter.Validation.Issue

/-!
# Schemas, and the check of a configuration

Where reading a configuration passes over what it cannot use, checking reports it. A schema says
which kinds of documents may stand at a place, and which schemas hold for the fields and for the
items there. A configuration has to be a mapping; each side may be absent, a text or a mapping; the
names of a type are a text or a row; the members of a row are texts. Every place at which this fails
is one issue.

## Main definitions

* `Schema`, `Schema.issues`: schemas, and the issues of a document under a schema
* `configurationSchema`: the schema of configurations
* `issues`: the issues of a configuration, ordered by place
* `report`: their texts; a number with too many digits stands in the way
-/

namespace PropertyFilter

/-- What may stand at a place of a document, in its fields and in its rows. -/
structure Schema where
  /-- The kinds that are allowed at the place itself. -/
  kinds : List Kind
  /-- The schemas of fields with given keys. -/
  fields : List (String × Schema)
  /-- The schema of all other fields, if there is one. -/
  others : Option Schema
  /-- The schema of the items of a row, if there is one. -/
  items : Option Schema
  deriving Inhabited

namespace Schema

mutual

/-- The issues of a document at a place, in the order in which its parts are visited. -/
def issues : Schema → (place : List String) → Document → List Issue
  | ⟨kinds, fields, others, items⟩, place, d =>
    Issue.check kinds place d ++ fieldIssues fields place d
      ++ otherIssues others (fields.map Prod.fst) place d ++ itemIssues items place d

/-- The issues of the fields with given keys. -/
def fieldIssues : List (String × Schema) → (place : List String) → Document → List Issue
  | [], _, _ => []
  | (key, s) :: fields, place, d =>
    (match d.field? key with
      | some e => issues s (place ++ [key]) e
      | none => []) ++ fieldIssues fields place d

/-- The issues of the fields with other keys than the known ones. -/
def otherIssues : Option Schema → (known place : List String) → Document → List Issue
  | some s, known, place, .fields entries =>
    (entries.filter fun e => !known.contains e.1).flatMap fun e => issues s (place ++ [e.1]) e.2
  | _, _, _, _ => []

/-- The issues of the items of a row. -/
def itemIssues : Option Schema → (place : List String) → Document → List Issue
  | some s, place, .row items =>
    items.zipIdx.flatMap fun e => issues s (place ++ [toString e.2]) e.1
  | _, _, _ => []

end

end Schema

/-- A single name is a text. -/
def nameSchema : Schema := ⟨[.string], [], none, none⟩

/-- The names of a type are a text or a row of names. -/
def namesSchema : Schema := ⟨[.string, .array], [], none, some nameSchema⟩

/-- A side is absent, a text, or a mapping from types to their names. -/
def sideSchema : Schema := ⟨[.null, .string, .object], [], some namesSchema, none⟩

/-- A configuration is a mapping that may hold both sides. -/
def configurationSchema : Schema :=
  ⟨[.object], [(Side.excludes.key, sideSchema), (Side.includes.key, sideSchema)], none, none⟩

/-- The issues of a configuration, ordered by place. -/
def issues (configuration : Value) : List Issue :=
  (configurationSchema.issues [] (Document.ofValue configuration)).mergeSort Issue.before

/-- The texts of the issues of a configuration. -/
def issueMessages (configuration : Value) : List String :=
  (issues configuration).map Issue.message

/-- Whether a configuration can be checked: all keys in it have a text, and all that is found to be
wrong can be shown. -/
def isCheckable (configuration : Value) : Bool :=
  Document.hasKeyTexts configuration && (issues configuration).all (·.found.isShowable)

/-- The report on a configuration: the texts of its issues. -/
def report (configuration : Value) : Except Fault (List String) :=
  if isCheckable configuration then .ok (issueMessages configuration) else .error .malformed

/-- The report that a configuration has issues, if it has any. -/
def validityReport (configuration : Value) : Except Fault (Option String) := do
  match ← report configuration with
  | [] => return none
  | messages =>
    return some ("Invalid property filter configuration: " ++ String.intercalate "; " messages)

end PropertyFilter
