import PropertyFilter.Filter.Notice
import PropertyFilter.Log.Record
import PropertyFilter.Log.Rotation
import PropertyFilter.Terminal.Escape

/-!
# The surroundings of the program

Everything that the program reads and changes: the environment, colour support, the files, the
handlers of the log and what has been written to the two output streams.

## Main definitions

* `Handler`: where records go, and in which layout
* `World`: the surroundings
* `World.write`, `World.printLines`, `World.log`: output, and logging
* `World.setUpLog`: sets up the log anew
-/

namespace PropertyFilter

open Terminal (Environment ColorState Delivery)

/-- One of the two output streams. -/
inductive Channel where
  | stdout
  | stderr
  deriving DecidableEq, Repr, Inhabited

/-- Where a handler sends records. -/
inductive Sink where
  | nowhere
  /-- An output stream, with the deleting layers that were around it at the time. -/
  | stream (channel : Channel) (layers : Nat)
  | file (log : FileLog)
  deriving Repr, Inhabited

/-- A handler of the log. -/
structure Handler where
  sink : Sink
  layout : Option Layout
  deriving Repr, Inhabited

/-- The surroundings of the program. -/
structure World where
  environment : Environment
  color : ColorState
  files : FileTree
  /-- The level from which on records are logged. -/
  level : Int
  handlers : List Handler
  stdout : List Char
  stderr : List Char
  deriving Repr, Inhabited

namespace World

/-- The surroundings at the start: no handlers, and only warnings are logged. -/
def start (e : Environment) (files : FileTree) : World :=
  ⟨e, ColorState.start e, files, warningLevel, [], [], []⟩

/-- Forgets what has been written so far. -/
def flushed (w : World) : World := { w with stdout := [], stderr := [] }

/-- Adds to what has been written to a stream. -/
def put (w : World) (c : Channel) (cs : List Char) : World :=
  match c with
  | .stdout => { w with stdout := w.stdout ++ cs }
  | .stderr => { w with stderr := w.stderr ++ cs }

/-- Writes to a stream through layers; what a layer fails on does not arrive. -/
def send (w : World) (c : Channel) (layers : Nat) (cs : List Char) : World :=
  w.put c (Terminal.deliver layers cs).arrived

/-- Writes text to a stream as it is now; a layer may fail on it. -/
def write (w : World) (c : Channel) (s : String) : World × Option Fault :=
  let d := Terminal.deliver w.color.layers s.toList
  (w.put c d.arrived, d.fault)

/-- Prints a line on standard output; a layer may fail on it. -/
def printLine (w : World) (s : String) : World × Option Fault :=
  let d := Terminal.deliverLine w.color.layers s
  (w.put .stdout d.arrived, d.fault)

/-- Prints lines until a layer fails on one. -/
def printLines (w : World) : List String → World × Option Fault
  | [] => (w, none)
  | s :: rest =>
    match w.printLine s with
    | (w, none) => w.printLines rest
    | (w, some e) => (w, some e)

/-! ### Logging -/

/-- A handler takes the text of a record. Where a handler fails, as there is no text, a layer fails
on it, or no room can be made in a log file, a report goes to standard error whose text shows the
inside of the program; it is left out here. -/
def accept (w : World) (h : Handler) (text : Except Fault String) : World × Handler :=
  match h.sink, text with
  | .stream c layers, .ok line => (w.send c layers (line ++ "\n").toList, h)
  | .file l, text =>
    let (files, l) := l.take w.files text
    ({ w with files := files }, { h with sink := .file l })
  | _, _ => (w, h)

/-- A handler takes a record and passes it on as its layout leaves it. -/
def handle (w : World) (h : Handler) (s : SharedRecord) : World × Handler × SharedRecord :=
  match h.sink with
  | .nowhere => (w, h, s)
  | _ =>
    let (s, text) := (h.layout.getD .bare).format w.color s
    let (w, h) := w.accept h text
    (w, h, s)

/-- All handlers take a record in turn. -/
def handleAll (w : World) (s : SharedRecord) : List Handler → World × List Handler
  | [] => (w, [])
  | h :: hs =>
    let (w, h, s) := w.handle h s
    let (w, hs) := handleAll w s hs
    (w, h :: hs)

/-- Where no handler is installed, the bare message of a warning goes to standard error. -/
def lastResort (w : World) (r : Record) : World :=
  if warningLevel ≤ r.level then
    (w.handle ⟨.stream .stderr w.color.layers, none⟩ (.ofRecord r)).1
  else w

/-- Logs a record. -/
def log (w : World) (r : Record) : World :=
  if r.level < w.level || r.level ≤ 0 then w
  else match w.handlers with
    | [] => w.lastResort r
    | hs =>
      let (w, hs) := w.handleAll (.ofRecord r) hs
      { w with handlers := hs }

/-- Logs a text. -/
def logText (w : World) (level : Int) (logger text : String) : World :=
  w.log (.ofText level logger text)

/-- Adds a handler behind the others. -/
def addHandler (w : World) (h : Handler) : World := { w with handlers := w.handlers ++ [h] }

/-- Whether a handler writes to one of the output streams as they are now. -/
def isConsole (w : World) (h : Handler) : Bool :=
  match h.sink with
  | .stream _ layers => layers == w.color.layers
  | _ => false

/-- A handler that writes to an output stream as it is now. -/
def streamHandler (w : World) (c : Channel) (layout : Option Layout) : Handler :=
  ⟨.stream c w.color.layers, layout⟩

/-- How the log is set up. -/
structure LogSettings where
  verbose : Bool
  logFile : Option String
  maxBytes : Int
  backups : Int
  /-- Colour forced on or off, or nothing. -/
  forceColor : Value
  /-- Handlers that are there already stay. -/
  preserve : Bool
  deriving Repr, Inhabited

/-- Five mebibytes and three backups, no file, nothing forced. -/
def LogSettings.standard : LogSettings := ⟨false, none, 5 * 1024 * 1024, 3, .null, false⟩

/-- The name of the logger of the set-up itself. -/
def rootLogger : String := "root"

/-- Adds a log file; a file that cannot be opened is reported in the log. -/
def addLogFile (w : World) (path : String) (s : LogSettings) : World × Option Fault :=
  let (files, made) := FileLog.start w.files path s.maxBytes s.backups
  let w := { w with files := files }
  match made with
  | .ok l =>
    ((w.addHandler ⟨.file l, some .plain⟩).logText debugLevel rootLogger
      ("Log file initialized: " ++ path), none)
  | .error (.refused f) =>
    (w.logText errorLevel rootLogger
      ("Failed to initialize log file " ++ path ++ ": " ++ f.message), none)
  | .error .badPath => (w, some .malformed)

/-- Reports the decision on colours in the log. -/
def reportColor (w : World) (forceColor : Value) : World :=
  w.logText debugLevel rootLogger
    ("Color support: " ++ w.color.supported.plain ++ " ("
      ++ (match forceColor with
        | .null => "auto"
        | _ => "forced") ++ ")")

/-- The handlers that stay, and a console handler if none of them is one. -/
def withConsole (w : World) (preserve : Bool) : World :=
  let w := if preserve then w else { w with handlers := [] }
  if w.handlers.any w.isConsole then w else w.addHandler (w.streamHandler .stderr (some .console))

/-- Sets up the log: colours, level, handlers and, if asked for, a log file. -/
def setUpLog (w : World) (s : LogSettings) : World × Option Fault :=
  match w.color.force w.environment s.forceColor with
  | .error e => (w, some e)
  | .ok color =>
    let w := { w with color := color, level := if s.verbose then debugLevel else infoLevel }
    let w := w.withConsole s.preserve
    match s.logFile with
    | none | some "" => (w.reportColor s.forceColor, none)
    | some path =>
      match w.addLogFile path s with
      | (w, none) => (w.reportColor s.forceColor, none)
      | (w, some e) => (w, some e)

/-- Forces colours on or off, or goes back to detection. -/
def forceColor (w : World) (wish : Value) : Except Fault World :=
  match w.color.force w.environment wish with
  | .ok color => .ok { w with color := color }
  | .error e => .error e

/-- Logs a notice. -/
def notice (w : World) (n : Notice) : World := w.logText debugLevel n.logger n.message

end World

end PropertyFilter
