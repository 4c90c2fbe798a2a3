import PropertyFilter.Format.Json
import PropertyFilter.Format.Yaml.Cursor

/-!
# Scalars of YAML

The text of a scalar as it is written: plain, between quotes, or as a block of lines that is kept or
folded.

## Main definitions

* `Yaml.readQuoted`: a scalar between single or double quotes
* `Yaml.readPlain`: a scalar without quotes
* `Yaml.readBlock`: a block scalar
-/

namespace PropertyFilter.Yaml

/-- A piece of text taken from a cursor, and where the cursor stands then. -/
abbrev Taken := List Char × Cursor

/-! ### Quoted scalars -/

/-- The character of a one-letter escape. -/
def letterEscape? (c : Char) : Option Char :=
  match c with
  | '0' => some '\x00'
  | 'a' => some '\x07'
  | 'b' => some '\x08'
  | 't' | '\t' => some '\t'
  | 'n' => some '\n'
  | 'v' => some '\x0b'
  | 'f' => some '\x0c'
  | 'r' => some '\r'
  | 'e' => some '\x1b'
  | ' ' => some ' '
  | '"' => some '"'
  | '\\' => some '\\'
  | '/' => some '/'
  | 'N' => some '\x85'
  | '_' => some '\xa0'
  | 'L' => some '\u2028'
  | 'P' => some '\u2029'
  | _ => none

/-- The number of digits of a hexadecimal escape. -/
def hexWidth? (c : Char) : Option Nat :=
  match c with
  | 'x' => some 2
  | 'u' => some 4
  | 'U' => some 8
  | _ => none

/-- The character of a number; there are none from `0x110000` on. Halves of pairs do not make up a
pair here. -/
def charOfNumber (n : Nat) : ReadResult Char :=
  if 0x80000000 ≤ n then .error (.fault .overflow)
  else if 0x110000 ≤ n then .error (.fault .malformed)
  else Json.unitChar n

/-- The character of a hexadecimal escape behind its letter. -/
def takeHexEscape (width : Nat) (c : Cursor) : ReadResult (Char × Cursor) :=
  let ds := c.rest.take width
  if ds.length < width then .error .malformed
  else match Json.hexNumber? ds with
    | none => .error .malformed
    | some n => (charOfNumber n).map fun ch => (ch, c.skip width)

/-- Line breaks and the blanks before them, inside quotes; no document mark may stand there. `fuel`
is at least the number of characters. -/
def quotedBreaks : (fuel : Nat) → Cursor → ReadResult Taken
  | 0, c => .ok ([], c)
  | fuel + 1, c =>
    if c.atDocumentMark then .error .malformed
    else
      let c := c.skipRun fun ch => ch == ' ' || ch == '\t'
      if isBreak c.here then
        let (b, c) := c.takeBreak
        (quotedBreaks fuel c).map fun (bs, c) => (b ++ bs, c)
      else .ok ([], c)

/-- All line breaks in front of a cursor, inside quotes. -/
def takeQuotedBreaks (c : Cursor) : ReadResult Taken := quotedBreaks (c.rest.length + 1) c

/-- Joins lines: one break becomes a space, of more the first is dropped. -/
def foldBreaks (first more : List Char) : List Char :=
  if first != ['\n'] then first ++ more else if more.isEmpty then [' '] else more

/-- Blanks inside quotes; with a line break among them they are folded. -/
def quotedSpaces (c : Cursor) : ReadResult Taken := do
  let (blanks, c) := c.takeRun fun ch => ch == ' ' || ch == '\t'
  if c.here = ending then .error .malformed
  else if isBreak c.here then
    let (b, c) := c.takeBreak
    let (bs, c) ← takeQuotedBreaks c
    return (foldBreaks b bs, c)
  else return (blanks, c)

/-- An escape behind its backslash. -/
def takeEscape (c : Cursor) : ReadResult Taken :=
  match letterEscape? c.here with
  | some ch => .ok ([ch], c.next)
  | none =>
    match hexWidth? c.here with
    | some width => (takeHexEscape width c.next).map fun (ch, c) => ([ch], c)
    | none => if isBreak c.here then takeQuotedBreaks c.takeBreak.2 else .error .malformed

/-- A character that ends a run of ordinary characters inside quotes. -/
def endsQuotedRun (c : Char) : Bool :=
  c == '\'' || c == '"' || c == '\\' || isBlankOrEnd c

/-- Characters inside quotes up to a blank or the closing quote. `fuel` is at least the number of
characters. -/
def quotedWord (double : Bool) : (fuel : Nat) → Cursor → ReadResult Taken
  | 0, c => .ok ([], c)
  | fuel + 1, c =>
    let (run, c) := c.takeRun fun ch => !endsQuotedRun ch
    let go := fun (piece : List Char) (c : Cursor) =>
      (quotedWord double fuel c).map fun (more, c) => (run ++ piece ++ more, c)
    let ch := c.here
    if !double && ch == '\'' && c.ahead 1 == '\'' then go ['\''] (c.skip 2)
    else if (double && ch == '\'') || (!double && (ch == '"' || ch == '\\')) then go [ch] c.next
    else if double && ch == '\\' then
      match takeEscape c.next with
      | .ok (piece, c) => go piece c
      | .error e => .error e
    else .ok (run, c)

/-- Words and the blanks between them up to the closing quote. -/
def quotedTail (double : Bool) : (fuel : Nat) → Cursor → ReadResult Taken
  | 0, _ => .error .malformed
  | fuel + 1, c => do
    let (word, c) ← quotedWord double (c.rest.length + 1) c
    if c.here = (if double then '"' else '\'') then return (word, c.next)
    else
      let (blanks, c) ← quotedSpaces c
      let (more, c) ← quotedTail double fuel c
      return (word ++ blanks ++ more, c)

/-- A scalar between quotes; the cursor stands at the opening one. -/
def readQuoted (double : Bool) (c : Cursor) : ReadResult Taken :=
  quotedTail double (c.rest.length + 1) c.next

/-! ### Plain scalars -/

/-- Whether a character ends a run of ordinary characters in a plain scalar, given the one behind
it; within flow collections their punctuation does. -/
def endsPlainRun (inFlow : Bool) (c after : Char) : Bool :=
  isBlankOrEnd c
    || (c == ':'
      && (isBlankOrEnd after || (inFlow && [',', '[', ']', '\x7b', '\x7d'].contains after)))
    || (inFlow && [',', '?', '[', ']', '\x7b', '\x7d'].contains c)

/-- A run of ordinary characters in a plain scalar. -/
def plainRun (inFlow : Bool) : List Char → List Char
  | [] => []
  | c :: cs => if endsPlainRun inFlow c (cs.headD ending) then [] else c :: plainRun inFlow cs

/-- Line breaks and spaces between the lines of a plain scalar; none if a document mark is met,
which ends the scalar. -/
def plainBreaks : (fuel : Nat) → Cursor → Option (List Char) × Cursor
  | 0, c => (some [], c)
  | fuel + 1, c =>
    if c.here = ' ' then plainBreaks fuel c.next
    else if isBreak c.here then
      let (b, c) := c.takeBreak
      if c.atDocumentMark then (none, c)
      else
        let (bs, c) := plainBreaks fuel c
        (bs.map (b ++ ·), c)
    else (some [], c)

/-- What stands between two runs of a plain scalar. -/
structure PlainGap where
  /-- The text that it becomes; empty where the scalar ends. -/
  text : List Char
  cursor : Cursor
  /-- The gap has a line break in it. -/
  broken : Bool

/-- The gap in front of a cursor. -/
def plainGap (c : Cursor) : PlainGap :=
  let (spaces, c) := c.takeRun (· == ' ')
  if isBreak c.here then
    let (b, c) := c.takeBreak
    if c.atDocumentMark then ⟨[], c, true⟩
    else match plainBreaks (c.rest.length + 1) c with
      | (none, c) => ⟨[], c, true⟩
      | (some bs, c) => ⟨foldBreaks b bs, c, true⟩
  else ⟨spaces, c, false⟩

/-- A plain scalar: its text, where it ends, and whether its last gap has a line break in it. -/
structure PlainScalar where
  text : List Char
  cursor : Cursor
  broken : Bool

/-- The runs of a plain scalar, with the text of the gap before. Outside flow collections lines
below the indentation end the scalar. -/
def plainTail (inFlow : Bool) (indent : Int) :
    (fuel : Nat) → (gap : List Char) → (broken : Bool) → Cursor → PlainScalar
  | 0, _, broken, c => ⟨[], c, broken⟩
  | fuel + 1, gap, broken, c =>
    if c.here = '#' then ⟨[], c, broken⟩
    else
      let run := plainRun inFlow c.rest
      if run.isEmpty then ⟨[], c, broken⟩
      else
        let g := plainGap (c.skip run.length)
        if g.text.isEmpty || g.cursor.here == '#'
            || (!inFlow && (g.cursor.column : Int) < indent) then
          ⟨gap ++ run, g.cursor, g.broken⟩
        else
          let more := plainTail inFlow indent fuel g.text g.broken g.cursor
          ⟨gap ++ run ++ more.text, more.cursor, more.broken⟩

/-- A plain scalar; its lines are indented at least by `indent`. -/
def readPlain (inFlow : Bool) (indent : Int) (c : Cursor) : PlainScalar :=
  plainTail inFlow indent (c.rest.length + 1) [] false c

/-! ### Block scalars -/

/-- What becomes of the line breaks at the end of a block scalar. -/
inductive Chomping where
  | clip
  | strip
  | keep
  deriving DecidableEq, Repr

/-- A sign that says what becomes of the line breaks at the end. -/
def takeChomping (c : Cursor) : Option Chomping × Cursor :=
  if c.here = '+' then (some .keep, c.next)
  else if c.here = '-' then (some .strip, c.next)
  else (none, c)

/-- A digit that says how far the lines are indented. -/
def takeIncrement (c : Cursor) : ReadResult (Option Nat × Cursor) :=
  if c.here.isDigit then
    let n := c.here.toNat - '0'.toNat
    if n = 0 then .error .malformed else .ok (some n, c.next)
  else .ok (none, c)

/-- The header of a block scalar behind its indicator: sign and digit in either order. -/
def takeBlockHeader (c : Cursor) : ReadResult (Chomping × Option Nat × Cursor) := do
  let (chomping, increment, c) ← (match takeChomping c with
    | (some chomping, c) => do
      let (increment, c) ← takeIncrement c
      return (some chomping, increment, c)
    | (none, c) => do
      let (increment, c) ← takeIncrement c
      match increment with
      | none => return (none, none, c)
      | some n =>
        let (chomping, c) := takeChomping c
        return (chomping, some n, c) : ReadResult (Option Chomping × Option Nat × Cursor))
  if isSpaceOrEnd c.here then return (chomping.getD .clip, increment, c)
  else .error .malformed

/-- The empty lines in front of a block and the largest indentation on the way. -/
def blockIndentation : (fuel : Nat) → (deepest : Nat) → Cursor → List Char × Nat × Cursor
  | 0, deepest, c => ([], deepest, c)
  | fuel + 1, deepest, c =>
    if isBreak c.here then
      let (b, c) := c.takeBreak
      let (bs, deepest, c) := blockIndentation fuel deepest c
      (b ++ bs, deepest, c)
    else if c.here = ' ' then blockIndentation fuel (max deepest c.next.column) c.next
    else ([], deepest, c)

/-- Skips spaces up to a column. -/
def skipIndentation (indent : Nat) : (fuel : Nat) → Cursor → Cursor
  | 0, c => c
  | fuel + 1, c =>
    if c.column < indent && c.here == ' ' then skipIndentation indent fuel c.next else c

/-- Empty lines, and the indentation of the line behind them. -/
def blockBreaks (indent : Nat) : (fuel : Nat) → Cursor → List Char × Cursor
  | 0, c => ([], c)
  | fuel + 1, c =>
    let c := skipIndentation indent indent c
    if isBreak c.here then
      let (b, c) := c.takeBreak
      let (bs, c) := blockBreaks indent fuel c
      (b ++ bs, c)
    else ([], c)

/-- What stands between two lines of a block: a single break between lines that do not begin with a
blank becomes a space in a folded block, and of more the first is dropped. -/
def blockJoint (folded : Bool) (break_ breaks : List Char) (leading following : Bool) :
    List Char :=
  if folded && break_ == ['\n'] && leading && following then
    if breaks.isEmpty then [' '] else []
  else break_

/-- A blank within a line. -/
def isLineBlank (c : Char) : Bool := c == ' ' || c == '\t'

/-- The lines of a block, the last line break and the empty lines behind it. `before` are the empty
lines in front. -/
def blockLines (folded : Bool) (indent : Nat) :
    (fuel : Nat) → (before : List Char) → Cursor → List Char × List Char × List Char × Cursor
  | 0, before, c => ([], [], before, c)
  | fuel + 1, before, c =>
    if c.column = indent && c.here != ending then
      let leading := !isLineBlank c.here
      let (line, c) := c.takeRun fun ch => !isBreak ch
      let (b, c) := c.takeBreak
      let (breaks, c) := blockBreaks indent (c.rest.length + 1) c
      if c.column = indent && c.here != ending then
        let joint := blockJoint folded b breaks leading (!isLineBlank c.here)
        let (more, last, tail, c) := blockLines folded indent fuel breaks c
        (before ++ line ++ joint ++ more, last, tail, c)
      else (before ++ line, b, breaks, c)
    else ([], [], before, c)

/-- A block scalar; the cursor stands at its indicator, `parent` is the indentation around it. -/
def readBlock (folded : Bool) (parent : Int) (c : Cursor) : ReadResult Taken := do
  let (chomping, increment, c) ← takeBlockHeader c.next
  let c ← c.skipRestOfLine
  let least := (max (parent + 1) 1).toNat
  let fuel := c.rest.length + 1
  let (before, indent, c) := match increment with
    | none =>
      let (before, deepest, c) := blockIndentation fuel 0 c
      (before, max least deepest, c)
    | some n =>
      let indent := least + n - 1
      let (before, c) := blockBreaks indent fuel c
      (before, indent, c)
  let (lines, last, tail, c) := blockLines folded indent fuel before c
  return (lines ++ (if chomping = .strip then [] else last)
    ++ (if chomping = .keep then tail else []), c)

end PropertyFilter.Yaml
