import PropertyFilter.Fault

/-!
# Places in a YAML text

A cursor stands at a place of a text and knows its line and column. Behind the end of the text it
sees null characters, which no text holds.

## Main definitions

* `Yaml.isAllowed`: the characters that a text may hold
* `Yaml.Cursor`: places in a text
* `Yaml.Cursor.skip`, `Yaml.Cursor.takeRun`, `Yaml.Cursor.takeBreak`: moving on
-/

namespace PropertyFilter.Yaml

/-- The characters that a text may hold. -/
def isAllowed (c : Char) : Bool :=
  let n := c.toNat
  n == 0x09 || n == 0x0a || n == 0x0d || (0x20 ≤ n && n ≤ 0x7e) || n == 0x85
    || (0xa0 ≤ n && n ≤ 0xd7ff) || (0xe000 ≤ n && n ≤ 0xfffd) || 0x10000 ≤ n

/-- What a cursor sees behind the end. -/
def ending : Char := '\x00'

/-- A line break. -/
def isBreak (c : Char) : Bool :=
  c == '\n' || c == '\r' || c == '\x85' || c == '\u2028' || c == '\u2029'

/-- A line break or the end. -/
def isBreakOrEnd (c : Char) : Bool := isBreak c || c == ending

/-- A space, a line break or the end. -/
def isSpaceOrEnd (c : Char) : Bool := c == ' ' || isBreakOrEnd c

/-- A space, a tab, a line break or the end. -/
def isBlankOrEnd (c : Char) : Bool := c == '\t' || isSpaceOrEnd c

/-- A letter, a digit, a hyphen or an underscore. -/
def isNameChar (c : Char) : Bool := c.isAlphanum || c == '-' || c == '_'

/-- A place in a text. -/
structure Cursor where
  rest : List Char
  index : Nat
  line : Nat
  column : Nat
  deriving Repr, Inhabited

namespace Cursor

/-- The beginning of a text. -/
def start (cs : List Char) : Cursor := ⟨cs, 0, 0, 0⟩

/-- The character in front of the cursor. -/
def here (c : Cursor) : Char := c.rest.headD ending

/-- The character some places ahead. -/
def ahead (c : Cursor) (n : Nat) : Char := (c.rest.drop n).headD ending

/-- One character on; byte order marks take up no column. -/
def next (c : Cursor) : Cursor :=
  match c.rest with
  | [] => c
  | ch :: rest =>
    if isBreak ch then ⟨rest, c.index + 1, c.line + 1, 0⟩
    else ⟨rest, c.index + 1, c.line, if ch = '\ufeff' then c.column else c.column + 1⟩

/-- Some characters on. -/
def skip (c : Cursor) : Nat → Cursor
  | 0 => c
  | n + 1 => c.next.skip n

/-- The longest run of characters of a class in front of the cursor. -/
def run (c : Cursor) (p : Char → Bool) : List Char := c.rest.takeWhile p

/-- Takes the longest run of characters of a class. -/
def takeRun (c : Cursor) (p : Char → Bool) : List Char × Cursor :=
  let cs := c.run p
  (cs, c.skip cs.length)

/-- Skips the longest run of characters of a class. -/
def skipRun (c : Cursor) (p : Char → Bool) : Cursor := (c.takeRun p).2

/-- Skips spaces. -/
def skipSpaces (c : Cursor) : Cursor := c.skipRun (· == ' ')

/-- Skips what is left of a line. -/
def skipLine (c : Cursor) : Cursor := c.skipRun fun ch => !isBreak ch

/-- Takes a line break, if there is one: ordinary ones become line feeds. -/
def takeBreak (c : Cursor) : List Char × Cursor :=
  match c.rest with
  | '\r' :: '\n' :: _ => (['\n'], c.skip 2)
  | ch :: _ =>
    if ch = '\n' || ch = '\r' || ch = '\x85' then (['\n'], c.next)
    else if ch = '\u2028' || ch = '\u2029' then ([ch], c.next)
    else ([], c)
  | [] => ([], c)

/-- Whether the text goes on with three given characters and a blank or the end. -/
def startsWithMark (c : Cursor) (mark : List Char) : Bool :=
  mark.isPrefixOf c.rest && isBlankOrEnd (c.ahead mark.length)

/-- Whether the text goes on with the start or the end of a document. -/
def atDocumentMark (c : Cursor) : Bool :=
  c.startsWithMark ['-', '-', '-'] || c.startsWithMark ['.', '.', '.']

/-- Skips spaces, a comment and the end of a line; nothing else may stand there. -/
def skipRestOfLine (c : Cursor) : ReadResult Cursor :=
  let c := c.skipSpaces
  let c := if c.here = '#' then c.skipLine else c
  if isBreakOrEnd c.here then .ok c.takeBreak.2 else .error .malformed

@[simp] theorem skip_zero (c : Cursor) : c.skip 0 = c := rfl

end Cursor

end PropertyFilter.Yaml
