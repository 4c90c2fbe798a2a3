import PropertyFilter.Format.Json

/-!
# Strings and keys of TOML

## Main definitions

* `Toml.readKey`: a dotted key, and what follows
* `Toml.readString?`: a string in one of the four notations, and what follows
* `Toml.skipComment`: what follows a comment
-/

namespace PropertyFilter.Toml

/-- A reader takes something from the beginning of a text and leaves the rest. -/
abbrev Reader (α : Type) := List Char → ReadResult (α × List Char)

/-- A blank within a line. -/
def isBlank (c : Char) : Bool := c == ' ' || c == '\t'

/-- A blank or a line break. -/
def isBlankOrBreak (c : Char) : Bool := isBlank c || c == '\n'

/-- What follows the blanks within a line. -/
def skipBlanks (cs : List Char) : List Char := cs.dropWhile isBlank

/-- A control character other than a tab. -/
def isControl (c : Char) : Bool := (c.toNat < 0x20 && c != '\t') || c == '\x7f'

/-- A control character other than a tab or a line break. -/
def isControlInLines (c : Char) : Bool := isControl c && c != '\n'

/-- A character of a bare key. -/
def isBareKeyChar (c : Char) : Bool := c.isAlphanum || c == '-' || c == '_'

/-- What follows a comment, if one stands at the beginning; it holds no control characters. -/
def skipComment (cs : List Char) : ReadResult (List Char) :=
  match cs with
  | '#' :: rest =>
    if (rest.takeWhile (· ≠ '\n')).any isControl then .error .malformed
    else .ok (rest.dropWhile (· ≠ '\n'))
  | _ => .ok cs

/-- What follows blanks, line breaks and comments. `fuel` is at least the number of characters. -/
def skipFiller : (fuel : Nat) → List Char → ReadResult (List Char)
  | 0, cs => .ok cs
  | fuel + 1, cs => do
    let rest ← skipComment (cs.dropWhile isBlankOrBreak)
    if rest.length = cs.length then return cs else skipFiller fuel rest

/-- The character of a row of hexadecimal digits, if there is one. -/
def hexChar? (ds : List Char) : Option Char := do
  let n ← Json.hexNumber? ds
  if n < 0xd800 ∨ (0xdfff < n ∧ n ≤ 0x10ffff) then some (Char.ofNat n) else none

/-- The character of a hexadecimal escape with a given number of digits. -/
def takeHexChar (width : Nat) (cs : List Char) : ReadResult (Char × List Char) :=
  let ds := cs.take width
  if ds.length < width then .error .malformed
  else match hexChar? ds with
    | some c => .ok (c, cs.drop width)
    | none => .error .malformed

/-- The character of a one-letter escape. -/
def letterEscape? (c : Char) : Option Char :=
  match c with
  | 'b' => some '\x08'
  | 't' => some '\t'
  | 'n' => some '\n'
  | 'f' => some '\x0c'
  | 'r' => some '\r'
  | '"' => some '"'
  | '\\' => some '\\'
  | _ => none

/-- A backslash at the end of a line takes the break and all blanks behind it away. -/
def takeFold (cs : List Char) : ReadResult (List Char) :=
  match skipBlanks cs with
  | [] => .ok []
  | '\n' :: rest => .ok (rest.dropWhile isBlankOrBreak)
  | _ => .error .malformed

/-- The text that an escape stands for, behind its backslash. -/
def takeEscape (multiline : Bool) (cs : List Char) : ReadResult (List Char × List Char) :=
  match cs with
  | [] => .error .malformed
  | c :: rest =>
    if multiline && isBlankOrBreak c then (takeFold cs).map fun after => ([], after)
    else if c = 'u' then (takeHexChar 4 rest).map fun (x, after) => ([x], after)
    else if c = 'U' then (takeHexChar 8 rest).map fun (x, after) => ([x], after)
    else match letterEscape? c with
      | some x => .ok ([x], rest)
      | none => .error .malformed

/-- The rest of a string between double quotes. `fuel` is at least the number of characters. -/
def basicTail (multiline : Bool) : (fuel : Nat) → List Char → ReadResult (List Char × List Char)
  | 0, _ => .error .malformed
  | fuel + 1, cs =>
    match cs with
    | [] => .error .malformed
    | '"' :: rest =>
      if !multiline then .ok ([], rest)
      else match rest with
        | '"' :: '"' :: after => .ok ([], after)
        | _ => (basicTail multiline fuel rest).map fun (s, after) => ('"' :: s, after)
    | '\\' :: rest => do
      let (x, rest) ← takeEscape multiline rest
      let (s, after) ← basicTail multiline fuel rest
      return (x ++ s, after)
    | c :: rest =>
      if isControl c && !(multiline && c == '\n') then .error .malformed
      else (basicTail multiline fuel rest).map fun (s, after) => (c :: s, after)

/-- A string between double quotes on one line, behind the first quote. -/
def readBasic (cs : List Char) : ReadResult (List Char × List Char) :=
  basicTail false (cs.length + 1) cs

/-- A string between single quotes on one line, behind the first quote. -/
def readLiteral (cs : List Char) : ReadResult (List Char × List Char) :=
  let s := cs.takeWhile (· ≠ '\'')
  match cs.dropWhile (· ≠ '\'') with
  | _ :: after => if s.any isControl then .error .malformed else .ok (s, after)
  | [] => .error .malformed

/-- The text before three single quotes, and what follows them. -/
def untilTripleQuote : List Char → Option (List Char × List Char)
  | [] => none
  | '\'' :: '\'' :: '\'' :: after => some ([], after)
  | c :: cs => (untilTripleQuote cs).map fun (s, after) => (c :: s, after)

/-- Up to two more quotes behind the closing ones belong to the string. -/
def withExtraQuotes (quote : Char) (s rest : List Char) : List Char × List Char :=
  match rest with
  | a :: b :: after =>
    if a = quote && b = quote then (s ++ [a, b], after)
    else if a = quote then (s ++ [a], b :: after)
    else (s, rest)
  | [a] => if a = quote then (s ++ [a], []) else (s, rest)
  | [] => (s, [])

/-- A line break right behind the opening quotes does not count. -/
def dropFirstBreak : List Char → List Char
  | '\n' :: cs => cs
  | cs => cs

/-- A string over several lines, behind its opening quotes. -/
def readMultiline (literal : Bool) (cs : List Char) : ReadResult (List Char × List Char) :=
  let cs := dropFirstBreak cs
  if literal then
    match untilTripleQuote cs with
    | none => .error .malformed
    | some (s, rest) =>
      if s.any isControlInLines then .error .malformed
      else .ok (withExtraQuotes '\'' s rest)
  else do
    let (s, rest) ← basicTail true (cs.length + 1) cs
    return withExtraQuotes '"' s rest

/-- A string in one of the four notations; none if no quote stands at the beginning. -/
def readString? (cs : List Char) : Option (ReadResult (List Char × List Char)) :=
  match cs with
  | '"' :: '"' :: '"' :: rest => some (readMultiline false rest)
  | '"' :: rest => some (readBasic rest)
  | '\'' :: '\'' :: '\'' :: rest => some (readMultiline true rest)
  | '\'' :: rest => some (readLiteral rest)
  | _ => none

/-- A part of a key: bare, or a string on one line. -/
def readKeyPart (cs : List Char) : ReadResult (List Char × List Char) :=
  match cs with
  | '"' :: rest => readBasic rest
  | '\'' :: rest => readLiteral rest
  | _ =>
    let bare := cs.takeWhile isBareKeyChar
    if bare.isEmpty then .error .malformed else .ok (bare, cs.dropWhile isBareKeyChar)

/-- The parts of a key behind the first. `fuel` is at least the number of characters. -/
def keyTail : (fuel : Nat) → List Char → ReadResult (List String × List Char)
  | 0, cs => .ok ([], cs)
  | fuel + 1, cs =>
    match skipBlanks cs with
    | '.' :: rest => do
      let (part, rest) ← readKeyPart (skipBlanks rest)
      let (parts, rest) ← keyTail fuel rest
      return (String.ofList part :: parts, rest)
    | rest => .ok ([], rest)

/-- A dotted key, with the blanks behind it. -/
def readKey (cs : List Char) : ReadResult (List String × List Char) := do
  let (part, rest) ← readKeyPart cs
  let (parts, rest) ← keyTail (cs.length + 1) rest
  return (String.ofList part :: parts, rest)

end PropertyFilter.Toml
