import PropertyFilter.Format.Json
import PropertyFilter.Format.Yaml.Cursor
import PropertyFilter.Text.Utf8

/-!
# Tokens of YAML

The pieces of a YAML text, and the reading of those that are no scalars: names of anchors, tags and
directives.

## Main definitions

* `Yaml.Token`: the tokens
* `Yaml.TagText`: a tag as it is written
* `Yaml.readName`, `Yaml.readTag`, `Yaml.readDirective`: names, tags and directives
-/

namespace PropertyFilter.Yaml

open Text (decodeUtf8)

/-- A tag as it is written: a suffix behind a handle, or a whole tag without a handle. -/
structure TagText where
  handle : Option String
  suffix : String
  deriving DecidableEq, Repr, Inhabited

/-- A line that speaks about the document behind it. -/
inductive Directive where
  | version (major minor : Nat)
  | handle (name base : String)
  | other
  deriving DecidableEq, Repr, Inhabited

/-- A token. -/
inductive Token where
  | directive (d : Directive)
  | documentStart
  | documentEnd
  | blockSequenceStart
  | blockMappingStart
  | blockEnd
  | flowSequenceStart
  | flowSequenceEnd
  | flowMappingStart
  | flowMappingEnd
  | key
  | value
  | blockEntry
  | flowEntry
  | alias (name : String)
  | anchor (name : String)
  | tag (t : TagText)
  | scalar (plain : Bool) (text : List Char)
  | streamEnd
  /-- Here the text stops to be made of tokens. -/
  | broken (e : ReadError)
  deriving DecidableEq, Repr, Inhabited

/-! ### Names -/

/-- A character that may follow the name of an anchor. -/
def mayFollowName (c : Char) : Bool :=
  isBlankOrEnd c || ['?', ':', ',', ']', '\x7d', '%', '@', '\x60'].contains c

/-- The name of an anchor or an alias behind its indicator. -/
def readName (c : Cursor) : ReadResult (String × Cursor) :=
  let (name, c) := c.takeRun isNameChar
  if name.isEmpty || !mayFollowName c.here then .error .malformed
  else .ok (String.ofList name, c)

/-! ### Tags -/

/-- A character of a tag. -/
def isTagChar (c : Char) : Bool := c.isAlphanum || "-;/?:@&=+$,_.!~*'()[]%".toList.contains c

/-- The octets of a row of `%XX` escapes. -/
def takeOctets : (fuel : Nat) → Cursor → ReadResult (List UInt8 × Cursor)
  | 0, c => .ok ([], c)
  | fuel + 1, c =>
    if c.here = '%' then
      match Json.hexValue? (c.ahead 1), Json.hexValue? (c.ahead 2) with
      | some a, some b =>
        (takeOctets fuel (c.skip 3)).map fun (bs, c) => (UInt8.ofNat (a * 16 + b) :: bs, c)
      | _, _ => .error .malformed
    else .ok ([], c)

/-- The text of a row of `%XX` escapes. -/
def takeEscapedText (c : Cursor) : ReadResult (List Char × Cursor) := do
  let (octets, c) ← takeOctets (c.rest.length + 1) c
  match decodeUtf8 octets with
  | some cs => return (cs, c)
  | none => .error .malformed

/-- The characters of a tag, with escapes resolved. -/
def takeTagChars : (fuel : Nat) → Cursor → ReadResult (List Char × Cursor)
  | 0, c => .ok ([], c)
  | fuel + 1, c =>
    let (run, c) := c.takeRun fun ch => isTagChar ch && ch != '%'
    if c.here = '%' then do
      let (cs, c) ← takeEscapedText c
      let (more, c) ← takeTagChars fuel c
      return (run ++ cs ++ more, c)
    else .ok (run, c)

/-- The text of a tag; at least one character is there. -/
def takeTagText (c : Cursor) : ReadResult (String × Cursor) :=
  if isTagChar c.here then
    (takeTagChars (c.rest.length + 1) c).map fun (cs, c) => (String.ofList cs, c)
  else .error .malformed

/-- A handle: an exclamation mark alone before a space, or a name between two of them. -/
def takeHandle (c : Cursor) : ReadResult (String × Cursor) :=
  if c.here ≠ '!' then .error .malformed
  else if c.ahead 1 = ' ' then .ok ("!", c.next)
  else
    let (name, c) := c.next.takeRun isNameChar
    if c.here = '!' then .ok (String.ofList ('!' :: name ++ ['!']), c.next) else .error .malformed

/-- Whether an exclamation mark follows before the next space or line break. -/
def hasSecondMark (c : Cursor) : Bool :=
  (c.next.run fun ch => !isSpaceOrEnd ch).contains '!'

/-- A tag; the cursor stands at its exclamation mark. -/
def readTag (c : Cursor) : ReadResult (TagText × Cursor) := do
  let (tag, c) ← (
    if c.ahead 1 = '<' then do
      let (text, c) ← takeTagText (c.skip 2)
      if c.here = '>' then return (⟨none, text⟩, c.next) else .error .malformed
    else if isBlankOrEnd (c.ahead 1) then return (⟨none, "!"⟩, c.next)
    else do
      let (handle, c) ← if hasSecondMark c then takeHandle c else .ok ("!", c.next)
      let (suffix, c) ← takeTagText c
      return (⟨some handle, suffix⟩, c) : ReadResult (TagText × Cursor))
  if isSpaceOrEnd c.here then return (tag, c) else .error .malformed

/-! ### Directives -/

/-- A whole number of a directive. -/
def takeVersionNumber (c : Cursor) : ReadResult (Nat × Cursor) :=
  let (ds, c) := c.takeRun Char.isDigit
  if ds.isEmpty then .error .malformed
  else if maxDigits < ds.length then .error (.fault .malformed)
  else .ok (Number.digitsValue ds, c)

/-- What a version directive says. -/
def takeVersion (c : Cursor) : ReadResult (Directive × Cursor) := do
  let (major, c) ← takeVersionNumber c.skipSpaces
  if c.here ≠ '.' then .error .malformed
  let (minor, c) ← takeVersionNumber c.next
  if isSpaceOrEnd c.here then return (.version major minor, c) else .error .malformed

/-- What a handle directive says. -/
def takeHandleBase (c : Cursor) : ReadResult (Directive × Cursor) := do
  let (name, c) ← takeHandle c.skipSpaces
  if c.here ≠ ' ' then .error .malformed
  let (base, c) ← takeTagText c.skipSpaces
  if isSpaceOrEnd c.here then return (.handle name base, c) else .error .malformed

/-- A directive up to the end of its line; the cursor stands at its percent sign. -/
def readDirective (c : Cursor) : ReadResult (Directive × Cursor) := do
  let (name, c) := c.next.takeRun isNameChar
  if name.isEmpty || !isSpaceOrEnd c.here then .error .malformed
  let (d, c) ←
    if name = "YAML".toList then takeVersion c
    else if name = "TAG".toList then takeHandleBase c
    else return (.other, c.skipLine)
  let c ← c.skipRestOfLine
  return (d, c)

end PropertyFilter.Yaml
