import PropertyFilter.Validation.Document

/-!
# Issues of a document

An issue is a place in a document at which something else stands than may stand there.

## Main definitions

* `Kind`, `Kind.admits`: the kinds of documents
* `Issue`: a place, what is found there and what is allowed there
* `Issue.message`: how an issue reads
* `Issue.check`: the issue of a single place, if there is one
-/

namespace PropertyFilter

/-- What may stand at some place of a document. -/
inductive Kind where
  | null
  | string
  | array
  | object
  deriving DecidableEq, Repr, Inhabited

namespace Kind

/-- The name of a kind in messages. -/
def name : Kind → String
  | null => "null"
  | string => "string"
  | array => "array"
  | object => "object"

/-- Whether a document is of a kind. -/
def admits : Kind → Document → Bool
  | null, .leaf .null => true
  | string, .leaf (.text _) => true
  | array, .row _ => true
  | object, .fields _ => true
  | _, _ => false

end Kind

/-- A place in a document whose content is of none of the kinds allowed there. -/
structure Issue where
  /-- The keys and positions that lead to the place. -/
  place : List String
  found : Document
  allowed : List Kind
  deriving Repr, Inhabited

namespace Issue

/-- A place as a text; the whole document has a name of its own. -/
def location (place : List String) : String :=
  match String.intercalate "/" place with
  | "" => "<root>"
  | s => s

/-- How an issue reads. -/
def message (i : Issue) : String :=
  location i.place ++ ": " ++ i.found.shown ++ " is not of type "
    ++ String.intercalate ", " (i.allowed.map fun k => Text.quoted k.name)

/-- An issue at a place unless the document there is of an allowed kind. -/
def check (allowed : List Kind) (place : List String) (d : Document) : List Issue :=
  if allowed.any (·.admits d) then [] else [⟨place, d, allowed⟩]

/-- Whether a place does not come after another: place names are compared one by one. -/
def before (a b : Issue) : Bool := !decide (b.place < a.place)

end Issue

end PropertyFilter
