import PropertyFilter.Command.Overrides
import PropertyFilter.Command.Usage
import PropertyFilter.Command.Verdict
import PropertyFilter.Format.Yaml.Sheet
import PropertyFilter.Log.World
import PropertyFilter.Validation.Schema

/-!
# The command

The command loads a configuration, applies the overrides, and then checks it, shows the filters that
it describes, or gives verdicts on properties.

## Main definitions

* `Ending`: how a run ends
* `runOptions`: a run with given options
* `run`: a run of a command line
-/

namespace PropertyFilter.Command

/-- How a run ends: with a status, or by a fault that nothing deals with. -/
inductive Ending where
  | status (n : Nat)
  | crash (f : Fault)
  deriving DecidableEq, Repr, Inhabited

/-- The surroundings after a run, and its ending. -/
abbrev RunResult := World × Ending

/-- A run that ends with a status unless its last output failed. -/
def endWith (n : Nat) : World × Option Fault → RunResult
  | (w, none) => (w, .status n)
  | (w, some e) => (w, .crash e)

/-- Goes on after an output unless it failed. -/
def andThen (r : World × Option Fault) (next : World → RunResult) : RunResult :=
  match r with
  | (w, none) => next w
  | (w, some e) => (w, .crash e)

/-- The logger of the command. -/
def logger : String := "propfilter.core.application"

/-- Reports an error in the log and ends the run. -/
def fail (w : World) (text : String) : RunResult := (w.logText errorLevel logger text, .status 1)

/-- Logs the notices of a step and goes on with its outcome. -/
def withNotices {ε α : Type} (w : World) (x : Noticed ε α) (next : World → Except ε α → RunResult) :
    RunResult :=
  next (x.notices.foldl World.notice w) x.outcome

/-! ### Actions -/

/-- Reports the issues of a configuration, if there are any. -/
def check (w : World) (configuration : Value) : RunResult :=
  match report configuration with
  | .error e => (w, .crash e)
  | .ok [] => endWith 0 (w.printLine (w.color.success "Configuration is valid."))
  | .ok messages =>
    endWith 1 (w.printLines (messages.map w.color.error ++ ["Configuration validation failed."]))

/-- Shows the filters as a document. -/
def showFilters (w : World) (c : OutputFilters) : World × Option Fault :=
  match c.snapshot with
  | .error e => (w, some e)
  | .ok v =>
    match Yaml.write v with
    | .error e => (w, some e)
    | .ok text => w.write .stdout text

/-- Gives a verdict on each property in turn. -/
def showVerdicts (w : World) (c : OutputFilters) (typeName : Option String) :
    List String → World × Option Fault
  | [] => (w, none)
  | name :: names =>
    match describeProperty w.color c typeName (.text name) with
    | .error e => (w, some e)
    | .ok line =>
      match w.printLine line with
      | (w, none) => showVerdicts w c typeName names
      | (w, some e) => (w, some e)

/-- The hint for a command line that asks for nothing. -/
def nothingToDo : String := "Nothing to do, use --show, --validate or --property"

/-- Shows what is asked for; a hint is logged where nothing is. -/
def answer (w : World) (x : Options) (c : OutputFilters) : RunResult :=
  andThen (if x.showFilters then showFilters w c else (w, none)) fun w =>
    andThen (showVerdicts w c x.typeName x.properties) fun w =>
      if !x.showFilters && x.properties.isEmpty then
        (w.logText infoLevel logger nothingToDo, .status 0)
      else (w, .status 0)

/-! ### Runs -/

/-- Deals with a configuration as the options ask for. -/
def useConfiguration (x : Options) (w : World) (m : MergedConfiguration) : RunResult :=
  if x.validate then check w m.configuration
  else withNotices w m.filters fun w outcome =>
    match outcome with
    | .ok c => answer w x c
    | .error (.argument e) => fail w ("Invalid configuration: " ++ e.message)
    | .error (.fault e) => (w, .crash e)

/-- How the log is set up for some options. -/
def logSettings (x : Options) : World.LogSettings :=
  { World.LogSettings.standard with
    verbose := x.verbose
    logFile := x.logFile
    forceColor := if x.noColor then .bool false else .null }

/-- A run with given options. -/
def runOptions (w : World) (x : Options) : RunResult :=
  andThen (w.setUpLog (logSettings x)) fun w =>
    withNotices w (buildConfiguration w.files x.config x.excludes x.includes) fun w outcome =>
      match outcome with
      | .ok m => useConfiguration x w m
      | .error (.fault e) => (w, .crash e)
      | .error e => fail w ("Failed to load configuration: " ++ e.message)

/-- A run of a command line. -/
def run (w : World) (arguments : List String) : RunResult :=
  match parseOptions arguments with
  | .ok x => runOptions w x
  | .error .help => endWith 0 (w.write .stdout helpText)
  | .error (.refused e) =>
    andThen (w.write .stderr usageText) fun w => endWith 2 (w.write .stderr e.line)
  | .error (.fault e) => (w, .crash e)

end PropertyFilter.Command
