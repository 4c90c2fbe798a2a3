import PropertyFilter.Format.Yaml.ScalarText
import PropertyFilter.Format.Yaml.Token

/-!
# The tokens of a YAML text

A text becomes tokens from left to right. Indentation opens and closes block collections. That a
node is a key shows only at the colon behind it: until then the place before the node is kept, and
the tokens for the key come in there.

## Main definitions

* `Yaml.TokenReader`: what is known between two tokens
* `Yaml.TokenReader.advance`: reads one more token
* `Yaml.tokens`: all tokens of a text
-/

namespace PropertyFilter.Yaml

/-- A node that may turn out to be a key. -/
structure KeyCandidate where
  /-- The number of the token at which the node begins. -/
  token : Nat
  /-- Whether the text is malformed unless it is a key. -/
  required : Bool
  index : Nat
  line : Nat
  column : Nat
  deriving Repr, Inhabited

/-- What is known between two tokens. -/
structure TokenReader where
  cursor : Cursor
  tokens : Array Token
  /-- The column of the innermost block collection; `-1` outside of all. -/
  indent : Int
  /-- The columns of the block collections around it. -/
  outerIndents : List Int
  /-- Whether a key may begin here. -/
  keyAllowed : Bool
  /-- The node that may be a key, in the innermost flow collection or outside of all. -/
  candidate : Option KeyCandidate
  /-- The same for the collections around it; one for each flow collection. -/
  outerCandidates : List (Option KeyCandidate)
  /-- The end of the text has been reached. -/
  finished : Bool
  deriving Repr, Inhabited

namespace TokenReader

/-- At the beginning of a text. -/
def start (cs : List Char) : TokenReader :=
  ⟨Cursor.start cs, #[], -1, [], true, none, [], false⟩

/-- Whether the place is inside a flow collection. -/
def inFlow (r : TokenReader) : Bool := !r.outerCandidates.isEmpty

/-- Adds a token. -/
def push (r : TokenReader) (t : Token) : TokenReader := { r with tokens := r.tokens.push t }

/-- Adds a token that is some characters long. -/
def take (r : TokenReader) (t : Token) (length : Nat) : TokenReader :=
  { r.push t with cursor := r.cursor.skip length }

/-! ### Blanks between tokens -/

/-- Skips spaces, comments and line breaks; behind a line break a key may begin. -/
def skipBlanks : (fuel : Nat) → TokenReader → TokenReader
  | 0, r => r
  | fuel + 1, r =>
    let c := r.cursor.skipSpaces
    let c := if c.here = '#' then c.skipLine else c
    if isBreak c.here then
      skipBlanks fuel { r with cursor := c.takeBreak.2, keyAllowed := r.keyAllowed || !r.inFlow }
    else { r with cursor := c }

/-- Moves on to the next token; a byte order mark may open the text. -/
def toNextToken (r : TokenReader) : TokenReader :=
  let c := r.cursor
  let c := if c.index = 0 ∧ c.here = '\ufeff' then c.next else c
  skipBlanks (c.rest.length + 1) { r with cursor := c }

/-! ### Candidates for keys -/

/-- The most characters from the beginning of a key to its colon. -/
def maxKeyLength : Nat := 1024

/-- Whether a candidate is too far away to be a key: in another line or too long. -/
def isStale (c : Cursor) (k : KeyCandidate) : Bool :=
  k.line != c.line || maxKeyLength < c.index - k.index

/-- Drops a candidate that is too far away. -/
def freshCandidate (c : Cursor) : Option KeyCandidate → ReadResult (Option KeyCandidate)
  | none => .ok none
  | some k =>
    if !isStale c k then .ok (some k) else if k.required then .error .malformed else .ok none

/-- Drops the candidates that are too far away. -/
def dropStale (r : TokenReader) : ReadResult TokenReader := do
  let candidate ← freshCandidate r.cursor r.candidate
  let outer ← r.outerCandidates.mapM (freshCandidate r.cursor)
  return { r with candidate := candidate, outerCandidates := outer }

/-- Drops the innermost candidate; one that had to be a key may not be dropped. -/
def dropCandidate (r : TokenReader) : ReadResult TokenReader :=
  match r.candidate with
  | some k => if k.required then .error .malformed else .ok { r with candidate := none }
  | none => .ok r

/-- Keeps the place as a candidate, where a key may begin. -/
def saveCandidate (r : TokenReader) : ReadResult TokenReader :=
  if r.keyAllowed then do
    let r ← r.dropCandidate
    let c := r.cursor
    let required := !r.inFlow && r.indent == (c.column : Int)
    return { r with candidate := some ⟨r.tokens.size, required, c.index, c.line, c.column⟩ }
  else return r

/-! ### Indentation -/

/-- Closes the block collections that are indented deeper than a column. -/
def closeBlocks (column : Int) : (fuel : Nat) → TokenReader → TokenReader
  | 0, r => r
  | fuel + 1, r =>
    if column < r.indent then
      closeBlocks column fuel
        { r.push .blockEnd with
          indent := r.outerIndents.headD (-1), outerIndents := r.outerIndents.tail }
    else r

/-- Closes block collections down to a column. Inside flow collections indentation has no
meaning. -/
def unwind (column : Int) (r : TokenReader) : TokenReader :=
  if r.inFlow then r else closeBlocks column (r.outerIndents.length + 1) r

/-- Opens a block collection at a column, if that is deeper than where we are. -/
def openBlock (column : Nat) (r : TokenReader) : Option TokenReader :=
  if r.indent < column then
    some { r with outerIndents := r.indent :: r.outerIndents, indent := column }
  else none

/-- Opens a block collection here, if it is a new one, with its token. -/
def openBlockHere (t : Token) (r : TokenReader) : TokenReader :=
  match r.openBlock r.cursor.column with
  | some r => r.push t
  | none => r

/-! ### Tokens by kind -/

/-- Closes all block collections, for what stands outside of them. -/
def leaveBlocks (r : TokenReader) : ReadResult TokenReader := do
  let r ← (r.unwind (-1)).dropCandidate
  return { r with keyAllowed := false }

/-- The end of the text. -/
def takeEnd (r : TokenReader) : ReadResult TokenReader := do
  let r ← r.leaveBlocks
  return { r.push .streamEnd with candidate := none, finished := true }

/-- A directive. -/
def takeDirective (r : TokenReader) : ReadResult TokenReader := do
  let r ← r.leaveBlocks
  let (d, c) ← readDirective r.cursor
  return { r.push (.directive d) with cursor := c }

/-- The mark at the start or the end of a document. -/
def takeDocumentMark (t : Token) (r : TokenReader) : ReadResult TokenReader := do
  let r ← r.leaveBlocks
  return r.take t 3

/-- The bracket that opens a flow collection. -/
def takeFlowStart (t : Token) (r : TokenReader) : ReadResult TokenReader := do
  let r ← r.saveCandidate
  return { r.take t 1 with
    keyAllowed := true, candidate := none, outerCandidates := r.candidate :: r.outerCandidates }

/-- The bracket that closes a flow collection. -/
def takeFlowEnd (t : Token) (r : TokenReader) : ReadResult TokenReader := do
  let r ← r.dropCandidate
  return { r.take t 1 with
    keyAllowed := false
    candidate := (r.outerCandidates.headD none)
    outerCandidates := r.outerCandidates.tail }

/-- The comma between two entries of a flow collection. -/
def takeFlowEntry (r : TokenReader) : ReadResult TokenReader := do
  let r ← r.dropCandidate
  return { r.take .flowEntry 1 with keyAllowed := true }

/-- The hyphen of an entry of a block sequence. -/
def takeBlockEntry (r : TokenReader) : ReadResult TokenReader := do
  if !r.inFlow && !r.keyAllowed then .error .malformed
  let r := if r.inFlow then r else r.openBlockHere .blockSequenceStart
  let r ← r.dropCandidate
  return { r.take .blockEntry 1 with keyAllowed := true }

/-- The indicator of a key, or of a value that has its own, in a block mapping or a flow
collection. -/
def takeIndicator (t : Token) (r : TokenReader) : ReadResult TokenReader := do
  if !r.inFlow && !r.keyAllowed then .error .malformed
  let r := if r.inFlow then r else r.openBlockHere .blockMappingStart
  let r ← { r with keyAllowed := !r.inFlow }.dropCandidate
  return r.take t 1

/-- The colon of a value. If there is a candidate, it is the key: its token, and the one that opens
the mapping, come in before it. -/
def takeValue (r : TokenReader) : ReadResult TokenReader :=
  match r.candidate with
  | none => r.takeIndicator .value
  | some k =>
    let r := { r with
      candidate := none, keyAllowed := false, tokens := r.tokens.insertIdxIfInBounds k.token .key }
    let r :=
      if r.inFlow then r
      else match r.openBlock k.column with
        | some r =>
          { r with tokens := r.tokens.insertIdxIfInBounds k.token .blockMappingStart }
        | none => r
    .ok (r.take .value 1)

/-- An alias or an anchor, by its token. -/
def takeNamed (t : String → Token) (r : TokenReader) : ReadResult TokenReader := do
  let r ← r.saveCandidate
  let (name, c) ← readName r.cursor.next
  return { r.push (t name) with cursor := c, keyAllowed := false }

/-- A tag. -/
def takeTag (r : TokenReader) : ReadResult TokenReader := do
  let r ← r.saveCandidate
  let (tag, c) ← readTag r.cursor
  return { r.push (.tag tag) with cursor := c, keyAllowed := false }

/-- A block scalar. -/
def takeBlockScalar (folded : Bool) (r : TokenReader) : ReadResult TokenReader := do
  let r ← r.dropCandidate
  let (text, c) ← readBlock folded r.indent r.cursor
  return { r.push (.scalar false text) with cursor := c, keyAllowed := true }

/-- A quoted scalar. -/
def takeQuoted (double : Bool) (r : TokenReader) : ReadResult TokenReader := do
  let r ← r.saveCandidate
  let (text, c) ← readQuoted double r.cursor
  return { r.push (.scalar false text) with cursor := c, keyAllowed := false }

/-- A plain scalar. -/
def takePlain (r : TokenReader) : ReadResult TokenReader := do
  let r ← r.saveCandidate
  let s := readPlain r.inFlow (r.indent + 1) r.cursor
  return { r.push (.scalar true s.text) with cursor := s.cursor, keyAllowed := s.broken }

/-- Whether a plain scalar may begin here. -/
def startsPlain (r : TokenReader) : Bool :=
  let ch := r.cursor.here
  !(isBlankOrEnd ch || "-?:,[]\x7b\x7d#&*!|>'\"%@\x60".toList.contains ch)
    || (!isBlankOrEnd (r.cursor.ahead 1) && (ch == '-' || (!r.inFlow && (ch == '?' || ch == ':'))))

/-- Reads the token in front of the cursor. -/
def takeToken (r : TokenReader) : ReadResult TokenReader :=
  let c := r.cursor
  let atLineStart := c.column == 0
  let blankBehind := isBlankOrEnd (c.ahead 1)
  match c.here with
  | '\x00' => r.takeEnd
  | '[' => r.takeFlowStart .flowSequenceStart
  | '\x7b' => r.takeFlowStart .flowMappingStart
  | ']' => r.takeFlowEnd .flowSequenceEnd
  | '\x7d' => r.takeFlowEnd .flowMappingEnd
  | ',' => r.takeFlowEntry
  | '*' => r.takeNamed .alias
  | '&' => r.takeNamed .anchor
  | '!' => r.takeTag
  | '\'' => r.takeQuoted false
  | '"' => r.takeQuoted true
  | ch =>
    if ch == '%' && atLineStart then r.takeDirective
    else if atLineStart && c.startsWithMark ['-', '-', '-'] then r.takeDocumentMark .documentStart
    else if atLineStart && c.startsWithMark ['.', '.', '.'] then r.takeDocumentMark .documentEnd
    else if ch == '-' && blankBehind then r.takeBlockEntry
    else if ch == '?' && (r.inFlow || blankBehind) then r.takeIndicator .key
    else if ch == ':' && (r.inFlow || blankBehind) then r.takeValue
    else if ch == '|' && !r.inFlow then r.takeBlockScalar false
    else if ch == '>' && !r.inFlow then r.takeBlockScalar true
    else if r.startsPlain then r.takePlain
    else .error .malformed

/-- Reads one more token, with what has to come before it. -/
def advance (r : TokenReader) : ReadResult TokenReader := do
  let r ← r.toNextToken.dropStale
  (r.unwind r.cursor.column).takeToken

/-- Reads tokens up to the end of the text or to where it is broken. -/
def readAll : (fuel : Nat) → TokenReader → Array Token
  | 0, r => r.tokens.push (.broken .malformed)
  | fuel + 1, r =>
    if r.finished then r.tokens
    else match r.advance with
      | .ok r' => readAll fuel r'
      | .error e => r.tokens.push (.broken e)

end TokenReader

/-- All tokens of a text; the last one is the end of the text or says that it is broken. -/
def tokens (cs : List Char) : List Token :=
  if cs.all isAllowed then ((TokenReader.start cs).readAll (cs.length + 2)).toList
  else [.broken .malformed]

end PropertyFilter.Yaml
