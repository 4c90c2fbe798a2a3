import PropertyFilter.Format.Yaml.ScalarStyle
import PropertyFilter.Text.Base64
import PropertyFilter.Value.Display

/-!
# Writing values as YAML

A value is first drawn up as a sheet of scalars and collections and then written in block style, one
entry a line; only empty collections are written in brackets. A collection that occurs again is
written once, with an anchor, and then by its alias.

## Main definitions

* `Yaml.Sheet`: what is to be written
* `Yaml.Sheet.ofValue`: the sheet of a value
* `Yaml.write`: the text of a value
-/

namespace PropertyFilter.Yaml

open Number (Binary64)

/-- What is to be written. The label tells which parts are one and the same. -/
inductive Sheet where
  | scalar (label : Option Label) (s : Scalar)
  | sequence (label : Option Label) (items : List Sheet)
  | mapping (label : Option Label) (tag : Tag) (entries : List (Sheet × Sheet))
  deriving Repr, Inhabited

/-- The text of a floating-point number: one with an exponent has a point in front of it. -/
def floatText (x : Binary64) : List Char :=
  match x with
  | .undefined _ => ".nan".toList
  | .infinite s => (if s then "-.inf" else ".inf").toList
  | .finite _ _ =>
    let cs := x.text.toList
    if cs.contains '.' || !cs.contains 'e' then cs
    else cs.flatMap fun c => if c = 'e' then ['.', '0', 'e'] else [c]

/-- Lines of seventy-six characters, each with a line feed at its end. `fuel` bounds their
number. -/
def inLines : (fuel : Nat) → List Char → List Char
  | 0, _ => []
  | fuel + 1, cs =>
    if cs.isEmpty then [] else cs.take 76 ++ '\n' :: inLines fuel (cs.drop 76)

/-- The lines of octets in base sixty-four. -/
def octetLines (bs : List UInt8) : List Char :=
  let cs := Text.encodeBase64 bs
  inLines (cs.length + 1) cs

namespace Sheet

/-- A scalar that nothing else is one with. -/
def bare (tag : Tag) (text : List Char) : Sheet := .scalar none ⟨tag, text, false⟩

mutual

/-- The sheet of a value. A value that cannot be written has none, and neither has a number with too
many digits. -/
def ofValue : Value → Except Fault Sheet
  | .null => .ok (bare .null "null".toList)
  | .bool b => .ok (bare .bool (if b then "true" else "false").toList)
  | .int n => if isShort n then .ok (bare .int (intText n).toList) else .error .malformed
  | .float x => .ok (bare .float (floatText x))
  | .text s => .ok (bare .text s.toList)
  | .octets growable bs =>
    if growable then .error .unrepresentable
    else .ok (.scalar none ⟨.binary, octetLines bs, true⟩)
  | .list l items | .tuple l items => (ofItems items).map (.sequence l)
  | .set l frozen items =>
    if frozen then .error .unrepresentable else (ofMembers items).map (.mapping l .set)
  | .mapping l view entries =>
    if view then .error .unrepresentable else (ofEntries entries).map (.mapping l .mapping)
  | .date l d => .ok (.scalar l ⟨.timestamp, d.iso.toList, false⟩)
  | .moment l m => .ok (.scalar l ⟨.timestamp, (m.isoWith " ").toList, false⟩)
  | .range _ _ _ | .type _ _ | .object _ _ | .clock _ _ => .error .unrepresentable

/-- The sheets of the values of a row. -/
def ofItems : List Value → Except Fault (List Sheet)
  | [] => .ok []
  | v :: vs => do return (← ofValue v) :: (← ofItems vs)

/-- The sheets of the members of a set: keys without values. -/
def ofMembers : List Value → Except Fault (List (Sheet × Sheet))
  | [] => .ok []
  | v :: vs => do return (← ofValue v, bare .null "null".toList) :: (← ofMembers vs)

/-- The sheets of the entries of a mapping. -/
def ofEntries : List (Value × Value) → Except Fault (List (Sheet × Sheet))
  | [] => .ok []
  | (k, v) :: es => do return (← ofValue k, ← ofValue v) :: (← ofEntries es)

end

/-- The label of a sheet. -/
def label? : Sheet → Option Label
  | scalar l _ | sequence l _ | mapping l _ _ => l

/-! ### Anchors -/

/-- The labels met so far, and those of them that were met again, in that order. -/
structure Sharing where
  seen : List Label
  shared : List Label

/-- Notes a label; the second part says whether it was met for the first time. -/
def Sharing.meet (sh : Sharing) : Option Label → Sharing × Bool
  | none => (sh, true)
  | some l =>
    if sh.seen.contains l then
      ({ sh with shared := if sh.shared.contains l then sh.shared else sh.shared ++ [l] }, false)
    else ({ sh with seen := l :: sh.seen }, true)

mutual

/-- Notes the labels of a sheet; the parts of what was met before are not gone through again. -/
def share : Sheet → Sharing → Sharing
  | .scalar l _, sh => (sh.meet l).1
  | .sequence l items, sh =>
    let (sh, isNew) := sh.meet l
    if isNew then shareItems items sh else sh
  | .mapping l _ entries, sh =>
    let (sh, isNew) := sh.meet l
    if isNew then shareEntries entries sh else sh

/-- Notes the labels of the sheets of a row. -/
def shareItems : List Sheet → Sharing → Sharing
  | [], sh => sh
  | s :: rest, sh => shareItems rest (share s sh)

/-- Notes the labels of the sheets of entries. -/
def shareEntries : List (Sheet × Sheet) → Sharing → Sharing
  | [], sh => sh
  | (k, v) :: es, sh => shareEntries es (share v (share k sh))

end

/-- The name of the anchor of a label, by the place among the shared ones. -/
def anchorName? (shared : List Label) (l : Option Label) : Option (List Char) := do
  let i ← shared.idxOf? (← l)
  let ds := Number.digitsText (i + 1)
  return 'i' :: 'd' :: (List.replicate (3 - ds.length) '0' ++ ds)

/-! ### Writing -/

/-- The place of a sheet among others. -/
inductive Role where
  | root
  | item
  /-- A value, or a key with an indicator of its own. -/
  | member
  /-- A key in front of its colon. -/
  | simpleKey
  deriving DecidableEq, Repr

/-- The pen, and the labels of what is written already. -/
structure Progress where
  pen : Pen
  done : List Label

/-- Works with the pen. -/
def Progress.draw (f : Pen → Pen) (w : Progress) : Progress := { w with pen := f w.pen }

/-- The length that a key with anchor and tag must not reach in front of its colon. -/
def maxSimpleKey : Nat := 128

/-- Whether a sheet may be a key in front of its colon: it is short, and is an alias, an empty
collection or a scalar of one line that is not empty. -/
def isSimpleKey (shared done : List Label) (s : Sheet) : Bool :=
  let anchor := ((anchorName? shared s.label?).map List.length).getD 0
  let short := fun (tag : Tag) (n : Nat) =>
    anchor + (Scalar.tagText tag).length + n < maxSimpleKey
  if (s.label?.map done.contains).getD false then true
  else match s with
    | .scalar _ c => !c.text.isEmpty && !isMultiline c.text && short c.tag c.text.length
    | .sequence _ items => items.isEmpty && short .sequence 0
    | .mapping _ tag entries => entries.isEmpty && short tag 0

/-- The indentation of a block collection in one of a given indentation; a sequence behind a key
stands at the indentation of the key. -/
def innerIndent (flat : Bool) : Option Nat → Nat
  | none => 0
  | some n => if flat then n else n + 2

mutual

/-- Writes a sheet. `indent` is the indentation of the collection around it. -/
def write (shared : List Label) (indent : Option Nat) (role : Role) : Sheet → Progress → Progress
  | s, w =>
    let l := s.label?
    let name := anchorName? shared l
    if (l.map w.done.contains).getD false then
      w.draw (·.indicator ('*' :: name.getD []) true false false)
    else
      let w : Progress := { w with done := l.toList ++ w.done }
      let w := match name with
        | some cs => w.draw (·.indicator ('&' :: cs) true false false)
        | none => w
      match s with
      | .scalar _ c =>
        w.draw (c.write (match indent with
          | none => 2
          | some n => n + 2) (role = .simpleKey))
      | .sequence _ [] => w.draw fun p =>
        (p.indicator ['['] true true false).indicator [']'] false false false
      | .sequence _ (item :: items) =>
        writeItems shared (innerIndent (role = .member && !w.pen.indenting) indent)
          (item :: items) w
      | .mapping _ tag entries =>
        let w :=
          if tag = .mapping then w
          else w.draw (·.indicator (Scalar.tagText tag).toList true false false)
        match entries with
        | [] => w.draw fun p =>
          (p.indicator ['\x7b'] true true false).indicator ['\x7d'] false false false
        | e :: es => writeEntries shared (innerIndent false indent) (e :: es) w

/-- Writes the items of a sequence. -/
def writeItems (shared : List Label) (indent : Nat) : List Sheet → Progress → Progress
  | [], w => w
  | s :: rest, w =>
    let w := w.draw fun p => (p.indentTo indent).indicator ['-'] true false true
    writeItems shared indent rest (write shared (some indent) .item s w)

/-- Writes the entries of a mapping. -/
def writeEntries (shared : List Label) (indent : Nat) : List (Sheet × Sheet) → Progress → Progress
  | [], w => w
  | (k, v) :: es, w =>
    let w := w.draw (·.indentTo indent)
    let w :=
      if isSimpleKey shared w.done k then
        (write shared (some indent) .simpleKey k w).draw (·.indicator [':'] false false false)
      else
        let w := write shared (some indent) .member k (w.draw (·.indicator ['?'] true false true))
        w.draw fun p => (p.indentTo indent).indicator [':'] true false true
    writeEntries shared indent es (write shared (some indent) .member v w)

end

end Sheet

/-- The text of a value as a document. -/
def write (v : Value) : Except Fault String := do
  let sheet ← Sheet.ofValue v
  let shared := (sheet.share ⟨[], []⟩).shared
  let w := sheet.write shared none .root ⟨Pen.start, []⟩
  return (w.pen.indentTo 0).written

end PropertyFilter.Yaml
