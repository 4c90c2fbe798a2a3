import PropertyFilter.Filter.Shape
import PropertyFilter.Value.Display

/-!
# Documents

Before a configuration is checked it is brought into the form of a document: keys become text,
collections become rows, and whatever else there is stays as it is.

## Main definitions

* `Document`: the documents
* `Document.ofValue`: the document of a value
* `Document.keyText`: the text that a key becomes
* `Document.shown`: how messages show a document
* `Document.hasKeyTexts`, `Document.isShowable`: no number with too many digits has to be shown
-/

namespace PropertyFilter

/-- A configuration with text keys. -/
inductive Document where
  | fields (entries : List (String × Document))
  | row (items : List Document)
  | leaf (value : Value)
  deriving Repr, Inhabited

namespace Document

/-- The text that a key becomes: the type that it stands for, or else the key as shown. -/
def keyText (key : Value) : String := (typeKey? key).getD key.shown

/-- Replaces the document under a key, or adds one at the end. -/
def insert (key : String) (d : Document) :
    List (String × Document) → List (String × Document)
  | [] => [(key, d)]
  | (k, e) :: es => if k = key then (k, d) :: es else (k, e) :: insert key d es

mutual

/-- The document of a value. -/
def ofValue : Value → Document
  | .mapping _ _ entries => .fields (ofEntries [] entries)
  | .list _ items | .tuple _ items | .set _ _ items => .row (ofItems items)
  | v => .leaf v

/-- The documents of the values of a row. -/
def ofItems : List Value → List Document
  | [] => []
  | v :: vs => ofValue v :: ofItems vs

/-- Adds the documents of entries to those that are there; a later entry with the same text for
its key replaces the document and keeps the place. -/
def ofEntries (acc : List (String × Document)) :
    List (Value × Value) → List (String × Document)
  | [] => acc
  | (k, v) :: es => ofEntries (insert (keyText k) (ofValue v) acc) es

end

mutual

/-- How messages show a document. -/
def shown : Document → String
  | fields entries => bracketed "\x7b" (shownFields entries) "\x7d"
  | row items => bracketed "[" (shownRow items) "]"
  | leaf v => v.shown

/-- The forms of the documents of a row. -/
def shownRow : List Document → List String
  | [] => []
  | d :: ds => shown d :: shownRow ds

/-- The forms of fields. -/
def shownFields : List (String × Document) → List String
  | [] => []
  | (k, d) :: es => (Text.quoted k ++ ": " ++ shown d) :: shownFields es

end

mutual

/-- Whether a document can be shown. -/
def isShowable : Document → Bool
  | fields entries => fieldsShowable entries
  | row items => rowShowable items
  | leaf v => v.isShowable

/-- Whether all documents of a row can be shown. -/
def rowShowable : List Document → Bool
  | [] => true
  | d :: ds => isShowable d && rowShowable ds

/-- Whether all documents in fields can be shown. -/
def fieldsShowable : List (String × Document) → Bool
  | [] => true
  | (_, d) :: es => isShowable d && fieldsShowable es

end

/-- Whether a key has a text: one that stands for no type has to be shown. -/
def hasKeyText (key : Value) : Bool := (typeKey? key).isSome || key.isShowable

mutual

/-- Whether a value has a document: all keys in it have a text. -/
def hasKeyTexts : Value → Bool
  | .mapping _ _ entries => entriesHaveKeyTexts entries
  | .list _ items | .tuple _ items | .set _ _ items => allHaveKeyTexts items
  | _ => true

/-- Whether all values of a row have a document. -/
def allHaveKeyTexts : List Value → Bool
  | [] => true
  | v :: vs => hasKeyTexts v && allHaveKeyTexts vs

/-- Whether all keys of entries have a text, and all values a document. -/
def entriesHaveKeyTexts : List (Value × Value) → Bool
  | [] => true
  | (k, v) :: es => hasKeyText k && hasKeyTexts v && entriesHaveKeyTexts es

end

/-- The document in a field. -/
def field? (d : Document) (key : String) : Option Document :=
  match d with
  | fields entries => (entries.find? fun e => e.1 == key).map Prod.snd
  | _ => none

@[simp] theorem field?_row (items : List Document) (key : String) :
    (row items).field? key = none := rfl

@[simp] theorem field?_leaf (v : Value) (key : String) : (leaf v).field? key = none := rfl

end Document

end PropertyFilter
