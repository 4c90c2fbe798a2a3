import PropertyFilter.Format.Yaml.Pen
import PropertyFilter.Format.Yaml.Tag

/-!
# Styles of YAML scalars

A scalar is written in the simplest style in which it reads back as the same: plain, between single
quotes, between double quotes; a literal is asked for.

## Main definitions

* `Yaml.ScalarStyle`: the styles
* `Yaml.Scalar`: a text with its tag and the style that is asked for
* `Yaml.Scalar.style`: the style that it is written in
* `Yaml.Scalar.write`: writes it
-/

namespace PropertyFilter.Yaml

/-- The styles of scalars. -/
inductive ScalarStyle where
  | plain
  | singleQuoted
  | doubleQuoted
  | literal
  deriving DecidableEq, Repr

/-- A blank or a line break between words. -/
def isWordGap (c : Char) : Bool := isBlankOrEnd c

/-- Two neighbours in a text of which the first and the second are of some kinds. -/
def hasPair (p q : Char → Bool) (cs : List Char) : Bool :=
  (cs.zip cs.tail).any fun (a, b) => p a && q b

/-- A character that can only be written as an escape. -/
def needsEscape (c : Char) : Bool :=
  let n := c.toNat
  !(c == '\n' || (0x20 ≤ n && n ≤ 0x7e)
    || ((c == '\x85' || (0xa0 ≤ n && n ≤ 0xd7ff) || (0xe000 ≤ n && n ≤ 0xfffd)
      || (0x10000 ≤ n && n < 0x10ffff)) && c != '\ufeff'))

/-- Whether the beginning of a text would be taken for an indicator. -/
def opensIndicator (cs : List Char) : Bool :=
  match cs with
  | [] => false
  | c :: rest =>
    let gapBehind := (rest.head?.map isWordGap).getD true
    "#,[]\x7b\x7d&*!|>'\"%@\x60".toList.contains c
      || ((c == '?' || c == ':' || c == '-') && gapBehind)
      || ['-', '-', '-'].isPrefixOf cs || ['.', '.', '.'].isPrefixOf cs

/-- Whether a colon inside a text would end a key, or a hash sign begin a comment. -/
def holdsIndicator (cs : List Char) : Bool :=
  hasPair (· == ':') isWordGap cs || hasPair isWordGap (· == '#') cs
    || (1 < cs.length && cs.getLast? == some ':')

/-- Whether a text has line breaks. -/
def isMultiline (cs : List Char) : Bool := cs.any isTextBreak

/-- A space or a line break at one of the ends. -/
def hasOuterBlank (cs : List Char) : Bool :=
  let blank := fun c => c == ' ' || isTextBreak c
  (cs.head?.map blank).getD false || (cs.getLast?.map blank).getD false

/-- Whether a text can only be written between double quotes. -/
def needsDoubleQuotes (cs : List Char) : Bool :=
  hasPair (· == ' ') isTextBreak cs || cs.any needsEscape

/-- Whether a text can be written plain. -/
def allowsPlain (cs : List Char) : Bool :=
  cs.isEmpty || !(hasOuterBlank cs || isMultiline cs || needsDoubleQuotes cs || opensIndicator cs
    || holdsIndicator cs)

/-- Whether a text can be written between single quotes. -/
def allowsSingleQuotes (cs : List Char) : Bool :=
  !(hasPair isTextBreak (· == ' ') cs || needsDoubleQuotes cs)

/-- Whether a text can be written as a literal. -/
def allowsLiteral (cs : List Char) : Bool :=
  !(cs.isEmpty || cs.getLast? == some ' ' || needsDoubleQuotes cs)

/-- A text with its tag and the style that is asked for. -/
structure Scalar where
  tag : Tag
  text : List Char
  asLiteral : Bool
  deriving Repr

namespace Scalar

/-- The style that a scalar is written in; `simpleKey` is for a key in front of its colon. -/
def style (s : Scalar) (simpleKey : Bool) : ScalarStyle :=
  let cs := s.text
  if !s.asLiteral && Tag.ofPlain cs == s.tag && !(simpleKey && (cs.isEmpty || isMultiline cs))
      && allowsPlain cs then .plain
  else if s.asLiteral && !simpleKey && allowsLiteral cs then .literal
  else if !s.asLiteral && allowsSingleQuotes cs && !(simpleKey && isMultiline cs) then
    .singleQuoted
  else .doubleQuoted

/-- Whether the tag has to be written: it is not the one that the scalar has by itself. -/
def showsTag (s : Scalar) (style : ScalarStyle) : Bool :=
  if style = .plain then Tag.ofPlain s.text != s.tag else s.tag != .text

/-- The tag as it is written. -/
def tagText : Tag → String
  | .null => "!!null"
  | .bool => "!!bool"
  | .int => "!!int"
  | .float => "!!float"
  | .binary => "!!binary"
  | .timestamp => "!!timestamp"
  | .orderedMap => "!!omap"
  | .pairs => "!!pairs"
  | .set => "!!set"
  | .text => "!!str"
  | .sequence => "!!seq"
  | .mapping => "!!map"
  | .merge => "!!merge"
  | .value => "!!value"
  | .unknown => "!"

/-- Writes a scalar at an indentation. -/
def write (s : Scalar) (indent : Nat) (simpleKey : Bool) (p : Pen) : Pen :=
  let style := s.style simpleKey
  let p := if s.showsTag style then p.indicator (tagText s.tag).toList true false false else p
  match style with
  | .plain => p.plain indent (!simpleKey) s.text
  | .singleQuoted => p.singleQuoted indent (!simpleKey) s.text
  | .doubleQuoted => p.doubleQuoted indent (!simpleKey) s.text
  | .literal => p.literal indent s.text

end Scalar

end PropertyFilter.Yaml
