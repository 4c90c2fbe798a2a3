import PropertyFilter.Format.Yaml.Cursor
import PropertyFilter.Text.Quoted

/-!
# Writing YAML text

A pen writes a text and keeps in mind what the place where it stands is like: the column, whether a
blank stands before it, and whether the line holds nothing but indentation and indicators.

## Main definitions

* `Yaml.Pen`: a written text and the place at its end
* `Yaml.Pen.indicator`, `Yaml.Pen.indentTo`: indicators and new lines
* `Yaml.Pen.plain`, `Yaml.Pen.singleQuoted`, `Yaml.Pen.doubleQuoted`, `Yaml.Pen.literal`: scalars
-/

namespace PropertyFilter.Yaml

/-- The column behind which lines are broken where they may be. -/
def lineWidth : Nat := 80

/-- A line break that may stand in a scalar. -/
def isTextBreak (c : Char) : Bool := c == '\n' || c == '\x85' || c == '\u2028' || c == '\u2029'

/-- A written text and the place at its end. -/
structure Pen where
  written : String
  column : Nat
  /-- A blank stands before the place, or the line begins there. -/
  blankBefore : Bool
  /-- Nothing but indentation and indicators stands before the place in its line. -/
  indenting : Bool
  deriving Repr, Inhabited

namespace Pen

/-- Nothing is written yet. -/
def start : Pen := ⟨"", 0, true, true⟩

/-- Writes characters. -/
def put (cs : List Char) (p : Pen) : Pen :=
  { p with written := p.written ++ String.ofList cs, column := p.column + cs.length }

/-- Writes a line break. -/
def breakLine (c : Char) (p : Pen) : Pen := ⟨p.written.push c, 0, true, true⟩

/-- Writes an indicator; `apart` ones stand behind a blank. `blank` says whether the indicator
counts as a blank for what follows, `indents` whether it counts as indentation. -/
def indicator (cs : List Char) (apart blank indents : Bool) (p : Pen) : Pen :=
  let p := p.put (if p.blankBefore || !apart then cs else ' ' :: cs)
  { p with blankBefore := blank, indenting := p.indenting && indents }

/-- Moves to an indentation: in the same line, where that is still possible. -/
def indentTo (indent : Nat) (p : Pen) : Pen :=
  let p :=
    if !p.indenting || indent < p.column || (p.column == indent && !p.blankBefore) then
      p.breakLine '\n'
    else p
  if p.column < indent then
    { p.put (List.replicate (indent - p.column) ' ') with blankBefore := true }
  else p

/-- What follows continues a scalar. -/
def inText (p : Pen) : Pen := { p with blankBefore := false, indenting := false }

/-! ### Scalars -/

/-- The runs of a text: of spaces, of line breaks, and of other characters. -/
def runs (cs : List Char) : List (List Char) :=
  cs.splitBy fun a b => (a == ' ') == (b == ' ') && isTextBreak a == isTextBreak b

/-- The runs of a plain scalar; a single space may become a line break. -/
def plainRuns (indent : Nat) (mayBreak : Bool) : List (List Char) → Pen → Pen
  | [], p => p
  | r :: rs, p =>
    plainRuns indent mayBreak rs
      (if r = [' '] && mayBreak && lineWidth < p.column then (p.indentTo indent).inText
        else p.put r)

/-- A plain scalar. -/
def plain (indent : Nat) (mayBreak : Bool) (cs : List Char) (p : Pen) : Pen :=
  if cs.isEmpty then p
  else
    let p := if p.blankBefore then p else p.put [' ']
    plainRuns indent mayBreak (runs cs) p.inText

/-- Line breaks of a single-quoted scalar: an ordinary first one is written twice. -/
def quotedBreaks (indent : Nat) (bs : List Char) (p : Pen) : Pen :=
  let p := if bs.head? = some '\n' then p.breakLine '\n' else p
  (bs.foldl (fun p b => p.breakLine b) p).indentTo indent

/-- The runs of a single-quoted scalar. A single space inside may become a line break, and quotes
are written twice. -/
def singleQuotedRuns (indent : Nat) (mayBreak : Bool) :
    (first : Bool) → List (List Char) → Pen → Pen
  | _, [], p => p
  | first, r :: rs, p =>
    singleQuotedRuns indent mayBreak false rs
      (if r.head? = some ' ' then
        if r.length == 1 && mayBreak && lineWidth < p.column && !first && !rs.isEmpty then
          p.indentTo indent
        else p.put r
      else if r.any isTextBreak then quotedBreaks indent r p
      else p.put (r.flatMap fun c => if c = '\'' then ['\'', '\''] else [c]))

/-- A scalar between single quotes. -/
def singleQuoted (indent : Nat) (mayBreak : Bool) (cs : List Char) (p : Pen) : Pen :=
  (singleQuotedRuns indent mayBreak true (runs cs) (p.indicator ['\''] true false false)).indicator
    ['\''] false false false

/-- Whether a character stands for itself between double quotes. -/
def standsForItself (c : Char) : Bool :=
  let n := c.toNat
  !(c == '"' || c == '\\' || c == '\u2028' || c == '\u2029' || c == '\ufeff')
    && ((0x20 ≤ n && n ≤ 0x7e) || (0xa0 ≤ n && n ≤ 0xd7ff) || (0xe000 ≤ n && n ≤ 0xfffd))

/-- The letter of a short escape. -/
def escapeLetter? (c : Char) : Option Char :=
  match c with
  | '\x00' => some '0'
  | '\x07' => some 'a'
  | '\x08' => some 'b'
  | '\t' => some 't'
  | '\n' => some 'n'
  | '\x0b' => some 'v'
  | '\x0c' => some 'f'
  | '\r' => some 'r'
  | '\x1b' => some 'e'
  | '"' => some '"'
  | '\\' => some '\\'
  | '\x85' => some 'N'
  | '\u2028' => some 'L'
  | '\u2029' => some 'P'
  | _ => none

/-- The escape of a character: a letter, or a number with two, four or eight digits. -/
def escape (c : Char) : List Char :=
  match escapeLetter? c with
  | some letter => ['\\', letter]
  | none =>
    let n := c.toNat
    let (letter, width) := if n ≤ 0xff then ('x', 2) else if n ≤ 0xffff then ('u', 4) else ('U', 8)
    '\\' :: letter :: (Text.hexDigits width n).map Char.toUpper

/-- Ends a line inside double quotes; a space at the beginning of the next one is protected. -/
def foldQuoted (indent : Nat) (next : Option Char) (p : Pen) : Pen :=
  let p := ((p.put ['\\']).indentTo indent).inText
  if next = some ' ' then p.put ['\\'] else p

/-- The characters of a double-quoted scalar. Where a line is too long it ends before a space or
around an escape; `first` is the first character of the scalar, `afterEscape` says whether an escape
or the beginning stands before. -/
def doubleQuotedChars (indent : Nat) (mayBreak : Bool) :
    (first afterEscape : Bool) → List Char → Pen → Pen
  | _, _, [], p => p
  | first, afterEscape, c :: cs, p =>
    let inside := mayBreak && !first && !cs.isEmpty
    if standsForItself c then
      let p :=
        if inside && (c == ' ' || afterEscape) && lineWidth < p.column then
          p.foldQuoted indent (some c)
        else p
      doubleQuotedChars indent mayBreak false false cs (p.put [c])
    else
      let p := p.put (escape c)
      let p := if inside && lineWidth + 1 < p.column then p.foldQuoted indent cs.head? else p
      doubleQuotedChars indent mayBreak false true cs p

/-- A scalar between double quotes. -/
def doubleQuoted (indent : Nat) (mayBreak : Bool) (cs : List Char) (p : Pen) : Pen :=
  (doubleQuotedChars indent mayBreak true true cs (p.indicator ['"'] true false false)).indicator
    ['"'] false false false

/-- What the header of a literal scalar says: that it begins with a blank, and what its end is
like. -/
def literalHints (cs : List Char) : List Char :=
  match cs, cs.reverse with
  | first :: _, last :: before =>
    (if first = ' ' || isTextBreak first then ['2'] else [])
      ++ (if !isTextBreak last then ['-']
        else if (before.head?.map isTextBreak).getD true then ['+'] else [])
  | _, _ => []

/-- The runs of a literal scalar. -/
def literalRuns (indent : Nat) : List (List Char) → Pen → Pen
  | [], p => p
  | r :: rs, p =>
    if r.any isTextBreak then
      let p := r.foldl (fun p b => p.breakLine b) p
      literalRuns indent rs (if rs.isEmpty then p else p.indentTo indent)
    else
      let p := { p with written := p.written ++ String.ofList r }
      literalRuns indent rs (if rs.isEmpty then p.breakLine '\n' else p)

/-- A literal scalar: its lines as they are. -/
def literal (indent : Nat) (cs : List Char) (p : Pen) : Pen :=
  let p := (p.indicator ('|' :: literalHints cs) true false false).breakLine '\n'
  let p := if (cs.head?.map isTextBreak).getD true then p else p.indentTo indent
  literalRuns indent (cs.splitBy fun a b => isTextBreak a == isTextBreak b) p

end Pen

end PropertyFilter.Yaml
