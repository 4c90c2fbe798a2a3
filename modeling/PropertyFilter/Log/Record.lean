import PropertyFilter.Log.Stamp
import PropertyFilter.Log.Template
import PropertyFilter.Terminal.Color

/-!
# Log records and their layout

A record has a level, the name of a logger, a message and arguments for it. A layout turns it into
a line of text; a coloured layout puts style codes around the level and the message. An exception
and a stack that go with the record stand behind the line. Handlers pass one and the same record on,
and a layout writes into it.

A record here knows neither when nor where it was made: the clock stands still, and the line, the
file, the thread and the process are no fields of a line.

## Main definitions

* `Record`, `Record.text`: the records and their messages
* `levelName`: the name of a level
* `SharedRecord`: a record that handlers pass on
* `SharedRecord.attachments`, `SharedRecord.attached`: what stands behind the line of a record
* `Layout`, `Layout.make`: the layouts
* `Layout.format`: the text of a record in a layout, and what it leaves of the record
* `Layout.render`: the text of a record that no layout has written into
-/

namespace PropertyFilter

open Terminal (ColorState)

/-- The level of details for whoever looks for a fault. -/
def debugLevel : Int := 10

/-- The level of ordinary reports. -/
def infoLevel : Int := 20

/-- The level of warnings. -/
def warningLevel : Int := 30

/-- The level of errors. -/
def errorLevel : Int := 40

/-- The level of errors that end everything. -/
def criticalLevel : Int := 50

/-- The name of a level. -/
def levelName (n : Int) : String :=
  if n = debugLevel then "DEBUG"
  else if n = infoLevel then "INFO"
  else if n = warningLevel then "WARNING"
  else if n = errorLevel then "ERROR"
  else if n = criticalLevel then "CRITICAL"
  else if n = 0 then "NOTSET"
  else "Level " ++ intText n

/-- An exception that is logged with a record. -/
structure Raised where
  /-- The exception as a field of a line. -/
  value : Value
  /-- The text that shows where it was raised. -/
  trace : String
  deriving Repr, Inhabited

/-- Something to be logged. -/
structure Record where
  level : Int
  logger : String
  message : Value
  arguments : List Value
  exception : Option Raised := none
  /-- The text that shows where the record was made, if it is asked for. -/
  stack : Option String := none
  deriving Repr, Inhabited

namespace Record

/-- A record whose message is a plain text. -/
def ofText (level : Int) (logger text : String) : Record :=
  { level, logger, message := .text text, arguments := [] }

/-- What fills the message: a single mapping that is not empty is looked up by key. -/
def fillers (r : Record) : Arguments :=
  match r.arguments with
  | [.mapping l view (e :: es)] => .keyed (.mapping l view (e :: es)) (e :: es)
  | vs => .row vs

/-- The arguments as one value: a mapping that is looked up by key, or a tuple. -/
def givenArguments (r : Record) : Value :=
  match r.fillers with
  | .keyed mapping _ => mapping
  | .row vs => .tuple none vs

/-- The text of the message; without arguments it is taken as it is. -/
def text (r : Record) : Except Fault String :=
  if r.arguments.isEmpty then .ok r.message.plain
  else Template.fill r.message.plain r.fillers

end Record

/-- A record that handlers pass on, with what layouts write into it. -/
structure SharedRecord where
  record : Record
  /-- The name of the level. -/
  levelName : String
  /-- The text of the message, as the last layout has made it. -/
  text : Option String
  /-- The text of the exception, as the first layout has made it. -/
  exceptionText : Option String
  deriving Repr, Inhabited

namespace SharedRecord

/-- A record as the first handler gets it. -/
def ofRecord (r : Record) : SharedRecord := ⟨r, PropertyFilter.levelName r.level, none, none⟩

/-- The record with the text of its exception, which is made unless it is there. -/
def traced (s : SharedRecord) : SharedRecord :=
  match s.record.exception with
  | some e => if s.exceptionText.getD "" = "" then { s with exceptionText := some e.trace } else s
  | none => s

/-- The texts that stand behind the line of a record; empty ones do not. -/
def attachments (s : SharedRecord) : List String :=
  (s.traced.exceptionText.toList ++ s.record.stack.toList).filter (· ≠ "")

/-- Whether a text ends in a line break. -/
def endsLine (s : String) : Bool := s.toList.getLast? == some '\n'

/-- A text behind a line, in a line of its own. -/
def attach (line more : String) : String :=
  if endsLine line then line ++ more else line ++ "\n" ++ more

/-- A line with all that stands behind it. -/
def attached (s : SharedRecord) (line : String) : String := s.attachments.foldl attach line

end SharedRecord

/-- How a record is laid out. -/
structure Layout where
  /-- The template of a line. -/
  template : String
  /-- The pattern of the time; without one it has milliseconds. -/
  timePattern : Option String
  colored : Bool
  deriving DecidableEq, Repr, Inhabited

namespace Layout

/-- The template that is used when none is given. -/
def standardTemplate : String := "%(asctime)s [%(levelname)s] %(name)s: %(message)s"

/-- The pattern of times that is used when none is given. -/
def standardTimePattern : String := "%Y-%m-%d %H:%M:%S"

/-- The layout of log files. -/
def plain : Layout := ⟨standardTemplate, some standardTimePattern, false⟩

/-- The layout of the console. -/
def console : Layout := ⟨standardTemplate, some standardTimePattern, true⟩

/-- The layout of a handler that has been given none: the bare message. -/
def bare : Layout := ⟨"%(message)s", none, false⟩

/-- A letter, digit or underscore. -/
def isWordChar (c : Char) : Bool := c.isAlphanum || c == '_' || 0x80 ≤ c.toNat

/-- A number or a star, if there is one. -/
def skipExtent : List Char → List Char
  | '*' :: cs => cs
  | cs => cs.dropWhile Char.isDigit

/-- A point with a number or a star behind it, if there is one. -/
def skipPrecision : List Char → List Char
  | '.' :: '*' :: cs => cs
  | '.' :: c :: cs => if c.isDigit then cs.dropWhile Char.isDigit else '.' :: c :: cs
  | cs => cs

/-- Whether a text goes on with a field in parentheses and a complete placeholder. -/
def startsField : List Char → Bool
  | '%' :: '(' :: cs =>
    let word := cs.takeWhile isWordChar
    match cs.dropWhile isWordChar with
    | ')' :: rest =>
      let rest := skipPrecision (skipExtent (rest.dropWhile fun c => "#0+ -".toList.contains c))
      !word.isEmpty && (match rest with
        | c :: _ => "diouxefgcrsa%".toList.contains c.toLower
        | [] => false)
    | _ => false
  | _ => false

/-- A template is good when it holds a placeholder for a field. -/
def hasField : List Char → Bool
  | [] => false
  | c :: cs => startsField (c :: cs) || hasField cs

/-- Makes a layout from a template, which has to hold a field. -/
def make (template : String) (timePattern : Option String) (colored : Bool) :
    Except Fault Layout :=
  if hasField template.toList then .ok ⟨template, timePattern, colored⟩ else .error .malformed

/-- A coloured layout; an empty template or pattern counts as none. -/
def makeColored (template timePattern : Option String) : Except Fault Layout :=
  let given := fun (o : Option String) (standard : String) =>
    match o with
    | none => standard
    | some s => if s = "" then standard else s
  make (given template standardTemplate) (some (given timePattern standardTimePattern)) true

/-- The colour of a level and whether its name is bright. -/
def levelStyle (level : Int) : String × Bool :=
  if level = debugLevel then (Terminal.cyan, false)
  else if level = infoLevel then (Terminal.green, false)
  else if level = warningLevel then (Terminal.yellow, true)
  else if level = errorLevel then (Terminal.red, true)
  else if level = criticalLevel then (Terminal.magenta, true)
  else ("", false)

/-- The time as a layout shows it. -/
def time (l : Layout) : String :=
  match l.timePattern with
  | some p => stamp p
  | none => stamp standardTimePattern ++ ",000"

/-- A text as a field of a line, which it need not be. -/
def textField (s : Option String) : Value := (s.map Value.text).getD .null

/-- The fields of a line. -/
def fields (l : Layout) (s : SharedRecord) (message : String) : List (Value × Value) :=
  [("message", .text message), ("asctime", .text l.time), ("levelname", .text s.levelName),
    ("name", .text s.record.logger), ("levelno", .int s.record.level), ("msg", s.record.message),
    ("args", s.record.givenArguments), ("created", .float (.ofInt 0)),
    ("msecs", .float (.ofInt 0)),
    ("exc_info", (s.record.exception.map Raised.value).getD .null),
    ("exc_text", textField s.exceptionText),
    ("stack_info", textField s.record.stack)].map fun e => (.text e.1, e.2)

/-- Fills the template with the fields of a line; a field that is not there is an error of the
template. -/
def line (l : Layout) (s : SharedRecord) (message : String) : Except Fault String :=
  let entries := l.fields s message
  match Template.fill l.template (.keyed (.mapping none false entries) entries) with
  | .ok s => .ok s
  | .error .missingKey => .error .malformed
  | .error e => .error e

/-- A record with style codes around its message, if that is a text. -/
def paint (color : ColorState) (r : Record) : Record :=
  match r.message with
  | .text s => { r with message := .text (color.colored false (levelStyle r.level).1 s) }
  | _ => r

/-- The text of a record as it stands. The text of its message is made anew, and left in the record;
that of its exception is made behind the line, and left there for others. -/
def formatPlain (l : Layout) (s : SharedRecord) : SharedRecord × Except Fault String :=
  match s.record.text with
  | .error e => (s, .error e)
  | .ok message =>
    let s := { s with text := some message }
    match l.line s message with
    | .error e => (s, .error e)
    | .ok line => (s.traced, .ok (s.attached line))

/-- The text of a record in a layout. A coloured layout writes style codes into the message and the
name of the level, and puts both back as they were, whether there is a text or not. -/
def format (l : Layout) (color : ColorState) (s : SharedRecord) :
    SharedRecord × Except Fault String :=
  if l.colored && color.isOn then
    let (code, bright) := levelStyle s.record.level
    let painted : SharedRecord :=
      { s with
        record := paint color s.record
        levelName := color.colored bright code s.levelName }
    let (left, text) := l.formatPlain painted
    let restored : SharedRecord :=
      { left with
        record := { left.record with message := s.record.message }
        levelName := s.levelName }
    (restored, text)
  else l.formatPlain s

/-- The text of a record, in a layout, that no layout has written into. -/
def render (l : Layout) (color : ColorState) (r : Record) : Except Fault String :=
  (l.format color (.ofRecord r)).2

end Layout

end PropertyFilter
