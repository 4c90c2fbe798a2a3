import PropertyFilter.Format.Toml.Scalars
import PropertyFilter.Format.Toml.Tables

/-!
# TOML documents

## Main definitions

* `Toml.readValue`: a value, and what follows
* `Toml.Builder`, `Toml.readStatement`: the document so far, and the effect of a statement on it
* `Toml.read`: the value of a document
-/

namespace PropertyFilter.Toml

/-! ### Values -/

/-- Whether a value is an array or a table. -/
def isNested : Value → Bool
  | .list _ _ | .mapping _ _ _ => true
  | _ => false

/-- A value that is neither a string nor nested. -/
def readScalar (cs : List Char) : ReadResult (Value × List Char) :=
  match Json.afterWord? "true" cs, Json.afterWord? "false" cs with
  | some rest, _ => .ok (.bool true, rest)
  | _, some rest => .ok (.bool false, rest)
  | _, _ =>
    match readMoment? cs with
    | some r => r
    | none =>
      match readClock? cs with
      | some r => .ok r
      | none =>
        match readNumber? cs with
        | some r => r
        | none =>
          match readSpecial? cs with
          | some r => .ok r
          | none => .error .malformed

/-- A key without its last part, and the last part. -/
def splitKey (key : List String) : List String × String := (key.dropLast, key.getLastD "")

/-- Adds a pair to an inline table. -/
def addInline (t : Table) (marks : Marks) (key : List String) (v : Value) :
    ReadResult (Table × Marks) := do
  if marks.has key .frozen then .error .malformed
  let (parent, name) := splitKey key
  let t ← within false parent (addNew name v) t
  return (t, if isNested v then marks.add key .frozen true else marks)

mutual

/-- A value. `fuel` is at least the number of characters. -/
def readValue : (fuel : Nat) → List Char → ReadResult (Value × List Char)
  | 0, _ => .error .malformed
  | fuel + 1, cs =>
    match readString? cs with
    | some r => r.map fun (s, rest) => (.text (String.ofList s), rest)
    | none =>
      match cs with
      | '[' :: rest => do
        let rest ← skipFiller (rest.length + 1) rest
        match rest with
        | ']' :: after => return (.list none [], after)
        | _ =>
          let (vs, after) ← readItems fuel rest
          return (.list none vs, after)
      | '\x7b' :: rest =>
        match skipBlanks rest with
        | '\x7d' :: after => .ok (.mapping none false [], after)
        | pairs => (readPairs fuel [] [] pairs).map fun (t, after) => (.mapping none false t, after)
      | _ => readScalar cs

/-- The items of an array up to its closing bracket. -/
def readItems : (fuel : Nat) → List Char → ReadResult (List Value × List Char)
  | 0, _ => .error .malformed
  | fuel + 1, cs => do
    let (v, rest) ← readValue fuel cs
    let rest ← skipFiller (rest.length + 1) rest
    match rest with
    | ']' :: after => return ([v], after)
    | ',' :: more =>
      let more ← skipFiller (more.length + 1) more
      match more with
      | ']' :: after => return ([v], after)
      | _ =>
        let (vs, after) ← readItems fuel more
        return (v :: vs, after)
    | _ => .error .malformed

/-- The pairs of an inline table up to its closing brace. -/
def readPairs : (fuel : Nat) → Table → Marks → List Char → ReadResult (Table × List Char)
  | 0, _, _, _ => .error .malformed
  | fuel + 1, t, marks, cs => do
    let (key, rest) ← readKey cs
    match rest with
    | '=' :: rest =>
      let (v, rest) ← readValue fuel (skipBlanks rest)
      let (t, marks) ← addInline t marks key v
      match skipBlanks rest with
      | '\x7d' :: after => return (t, after)
      | ',' :: more => readPairs fuel t marks (skipBlanks more)
      | _ => .error .malformed
    | _ => .error .malformed

end

/-! ### Statements -/

/-- The document so far. -/
structure Builder where
  tables : Table
  marks : Marks
  /-- Keys that count as opened from the next table header on. -/
  pending : List (List String)
  /-- The key of the table that pairs go to. -/
  header : List String
  deriving Repr

/-- An empty document. -/
def Builder.empty : Builder := ⟨[], [], [], []⟩

/-- Marks the pending keys. -/
def Builder.settle (b : Builder) : Builder :=
  { b with
    marks := b.pending.foldl (fun ms key => ms.add key .opened false) b.marks
    pending := [] }

/-- Opens a table. -/
def Builder.openTable (b : Builder) (key : List String) : ReadResult Builder := do
  if b.marks.has key .opened || b.marks.has key .frozen then .error .malformed
  let tables ← within true key .ok b.tables
  return { b with tables := tables, marks := b.marks.add key .opened false, header := key }

/-- Opens a new table at the end of an array of tables. -/
def Builder.openArray (b : Builder) (key : List String) : ReadResult Builder := do
  if b.marks.has key .frozen then .error .malformed
  let (parent, name) := splitKey key
  let tables ← within true parent (appendTable name) b.tables
  return { b with
    tables := tables
    marks := (b.marks.clear key).add key .opened false
    header := key }

/-- The keys between a table and a dotted key in it. -/
def betweenKeys (header key : List String) : List (List String) :=
  (List.range (key.length - 1)).map fun i => header ++ key.take (i + 1)

/-- Adds a pair to the current table. -/
def Builder.addPair (b : Builder) (key : List String) (v : Value) : ReadResult Builder := do
  let between := betweenKeys b.header key
  if between.any fun k => b.marks.has k .opened then .error .malformed
  let (parent, name) := splitKey key
  let parent := b.header ++ parent
  if b.marks.has parent .frozen then .error .malformed
  let tables ← within true parent (addNew name v) b.tables
  let marks := if isNested v then b.marks.add (b.header ++ key) .frozen true else b.marks
  return { b with tables := tables, marks := marks, pending := b.pending ++ between }

/-- The header of a table or of an array of tables, behind its opening brackets. -/
def readHeader (b : Builder) (cs : List Char) : ReadResult (Builder × List Char) :=
  match cs with
  | '[' :: rest => do
    let (key, rest) ← readKey (skipBlanks rest)
    let b ← b.settle.openArray key
    match rest with
    | ']' :: ']' :: after => return (b, after)
    | _ => .error .malformed
  | _ => do
    let (key, rest) ← readKey (skipBlanks cs)
    let b ← b.settle.openTable key
    match rest with
    | ']' :: after => return (b, after)
    | _ => .error .malformed

/-- A key and its value. -/
def readPair (b : Builder) (cs : List Char) : ReadResult (Builder × List Char) := do
  let (key, rest) ← readKey cs
  match rest with
  | '=' :: rest =>
    let (v, rest) ← readValue (2 * rest.length + 2) (skipBlanks rest)
    return (← b.addPair key v, rest)
  | _ => .error .malformed

/-- The statement at the beginning of a line; a line may also be empty or hold a comment only. -/
def readStatement (b : Builder) (cs : List Char) : ReadResult (Builder × List Char) :=
  match cs with
  | [] => .ok (b, [])
  | '\n' :: _ | '#' :: _ => .ok (b, cs)
  | '[' :: rest => readHeader b rest
  | c :: _ =>
    if isBareKeyChar c || c = '"' || c = '\'' then readPair b cs else .error .malformed

/-- The statements of a document, one a line. `fuel` is more than the number of lines. -/
def readLines : (fuel : Nat) → Builder → List Char → ReadResult Builder
  | 0, _, _ => .error .malformed
  | fuel + 1, b, cs => do
    let (b, rest) ← readStatement b (skipBlanks cs)
    match ← skipComment (skipBlanks rest) with
    | [] => return b
    | '\n' :: rest => readLines fuel b rest
    | _ => .error .malformed

/-- A line feed in place of a carriage return and a line feed. -/
def joinBreaks : List Char → List Char
  | [] => []
  | '\r' :: '\n' :: cs => '\n' :: joinBreaks cs
  | c :: cs => c :: joinBreaks cs

/-- The value of a document. -/
def read (cs : List Char) : ReadResult Value :=
  let cs := joinBreaks cs
  (readLines (cs.length + 1) .empty cs).map fun b => .mapping none false b.tables

end PropertyFilter.Toml
