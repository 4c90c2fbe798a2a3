import PropertyFilter.Fault
import PropertyFilter.Text.CharacterClass
import PropertyFilter.Text.Quoted

/-!
# Command line options

The words of a command line are options, arguments of options, or neither. A long option may be
shortened as long as it stays clear which one is meant, short options may be written together, and
an argument may stand behind an equals sign.

## Main definitions

* `OptionName`: the options, with their spellings and what they take
* `Options`: what a command line asks for
* `Word.ofArgument`: what a word of a command line is
* `UsageError`, `UsageError.message`: why a command line is refused
* `parseOptions`: the options of a command line
-/

namespace PropertyFilter.Command

/-- The options. -/
inductive OptionName where
  | help
  | config
  | excludes
  | includes
  | validate
  | showFilters
  | typeName
  | properties
  | verbose
  | logFile
  | noColor
  deriving DecidableEq, Repr, Inhabited

/-- How many arguments an option takes. -/
inductive Arity where
  | none
  | one
  /-- One or more. -/
  | some
  deriving DecidableEq, Repr, Inhabited

namespace OptionName

/-- The options in the order of the help text. -/
def all : List OptionName :=
  [help, config, excludes, includes, validate, showFilters, typeName, properties, verbose, logFile,
    noColor]

/-- The spellings of an option, the short one first. -/
def spellings : OptionName → List String
  | help => ["-h", "--help"]
  | config => ["-c", "--config"]
  | excludes => ["--excludes"]
  | includes => ["--includes"]
  | validate => ["--validate"]
  | showFilters => ["--show"]
  | typeName => ["-t", "--type"]
  | properties => ["-p", "--property"]
  | verbose => ["-v", "--verbose"]
  | logFile => ["--log-file"]
  | noColor => ["--no-color"]

/-- How many arguments an option takes. -/
def arity : OptionName → Arity
  | help | validate | showFilters | verbose | noColor => .none
  | config | excludes | includes | typeName | logFile => .one
  | properties => .some

/-- How reports name an option. -/
def title (o : OptionName) : String := String.intercalate "/" o.spellings

/-- All spellings with their options. -/
def spelled : List (String × OptionName) :=
  all.flatMap fun o => o.spellings.map fun s => (s, o)

/-- The option of a spelling. -/
def ofSpelling? (s : String) : Option OptionName :=
  (spelled.find? fun e => e.1 == s).map Prod.snd

/-- The option of a letter behind a hyphen. -/
def ofLetter? (c : Char) : Option OptionName := ofSpelling? (String.ofList ['-', c])

end OptionName

/-- What a command line asks for. -/
structure Options where
  config : Option String
  excludes : Option String
  includes : Option String
  validate : Bool
  showFilters : Bool
  typeName : Option String
  properties : List String
  verbose : Bool
  logFile : Option String
  noColor : Bool
  deriving DecidableEq, Repr, Inhabited

/-- Nothing is asked for. -/
def Options.none : Options :=
  ⟨.none, .none, .none, false, false, .none, [], false, .none, false⟩

/-! ### Reports -/

/-- Why a command line is refused. -/
inductive UsageError where
  | ambiguous (word : String) (spellings : List String)
  | missingArgument (o : OptionName)
  | unexpectedArgument (o : OptionName) (argument : String)
  | unrecognized (words : List String)
  deriving DecidableEq, Repr, Inhabited

/-- The text of the report. -/
def UsageError.message : UsageError → String
  | ambiguous word spellings =>
    "ambiguous option: " ++ word ++ " could match " ++ String.intercalate ", " spellings
  | missingArgument o =>
    "argument " ++ o.title ++ ": expected "
      ++ (if o.arity = .some then "at least one argument" else "one argument")
  | unexpectedArgument o argument =>
    "argument " ++ o.title ++ ": ignored explicit argument " ++ Text.quoted argument
  | unrecognized words => "unrecognized arguments: " ++ String.intercalate " " words

/-- Why a command line yields no options. -/
inductive ParseStop where
  /-- The help text is asked for. -/
  | help
  | refused (e : UsageError)
  | fault (f : Fault)
  deriving DecidableEq, Repr, Inhabited

/-! ### Words -/

/-- What a word of a command line is. -/
inductive Word where
  | argument (s : String)
  /-- An option, in its short form or not, with the argument that is part of the word. -/
  | option (o : OptionName) (short : Bool) (attached : Option (List Char))
  | unknown (s : String)
  /-- Two hyphens: behind them everything is an argument. -/
  | separator
  deriving DecidableEq, Repr, Inhabited

/-- A word cut at its first equals sign, if it has one. -/
def cutAtEquals? (cs : List Char) : Option (List Char × List Char) :=
  match cs.dropWhile (· != '=') with
  | _ :: rest => some (cs.takeWhile (· != '='), rest)
  | [] => .none

/-- The digits of a whole number, or with a point among them and digits behind it. -/
def isNumeral (cs : List Char) : Bool :=
  let rest := cs.dropWhile Text.isDecimalDigit
  match rest with
  | [] => !cs.isEmpty
  | '.' :: ds => !ds.isEmpty && ds.all Text.isDecimalDigit
  | _ => false

/-- A negative number, possibly with a line feed at its end. -/
def isNegativeNumeral (cs : List Char) : Bool :=
  match cs with
  | '-' :: ds => isNumeral (if ds.getLast? = some '\n' then ds.dropLast else ds)
  | _ => false

/-- Whether a spelling is a short one. -/
def isShort (spelling : List Char) : Bool := spelling.length == 2

/-- The options that a word may mean that is not spelled out: of a long one the beginning stands
there, of a short one the argument is attached. -/
def candidates (cs : List Char) : List (String × Word) :=
  match cs with
  | '-' :: '-' :: _ =>
    let (start, attached) := match cutAtEquals? cs with
      | some (a, b) => (a, some b)
      | .none => (cs, .none)
    (OptionName.spelled.filter fun e => start.isPrefixOf e.1.toList).map fun e =>
      (e.1, .option e.2 false attached)
  | '-' :: c :: rest =>
    match OptionName.ofLetter? c with
    | some o => [(String.ofList ['-', c], .option o true (some rest))]
    | .none => []
  | _ => []

/-- The option that a word spells out, possibly before an equals sign. -/
def spelledOut? (cs : List Char) : Option Word :=
  match OptionName.ofSpelling? (String.ofList cs) with
  | some o => some (.option o (isShort cs) .none)
  | .none => do
    let (start, attached) ← cutAtEquals? cs
    let o ← OptionName.ofSpelling? (String.ofList start)
    return .option o (isShort start) (some attached)

/-- A word that begins with a hyphen and is no option that is known. -/
def unknownWord (s : String) : Word :=
  if isNegativeNumeral s.toList || s.toList.contains ' ' then .argument s else .unknown s

/-- What a word is. -/
def Word.ofArgument (s : String) : Except UsageError Word :=
  let cs := s.toList
  if cs.head? ≠ some '-' then .ok (.argument s)
  else match spelledOut? cs with
    | some w => .ok w
    | .none =>
      if cs = ['-'] then .ok (.argument s)
      else match candidates cs with
        | [] => .ok (unknownWord s)
        | [(_, w)] => .ok w
        | several => .error (.ambiguous s (several.map Prod.fst))

/-- What the words of a command line are. -/
def wordsOf : List String → Except UsageError (List Word)
  | [] => .ok []
  | s :: rest =>
    if s = "--" then .ok (.separator :: rest.map .argument)
    else do return (← Word.ofArgument s) :: (← wordsOf rest)

/-! ### Options and their arguments -/

/-- Short options written together: those that take no argument, and the last one, possibly with an
argument. -/
def unbundle (o : OptionName) (short : Bool) (attached : List Char) :
    Except UsageError (List OptionName × OptionName × Option (List Char)) :=
  if o.arity ≠ .none then .ok ([], o, some attached)
  else match attached with
    | c :: rest =>
      match short, OptionName.ofLetter? c with
      | true, some next =>
        if rest.isEmpty then .ok ([o], next, .none)
        else match unbundle next true rest with
          | .ok (flags, last, argument) => .ok (o :: flags, last, argument)
          | .error e => .error e
      | _, _ => .error (.unexpectedArgument o (String.ofList attached))
    | [] => .error (.unexpectedArgument o "")
termination_by attached.length

/-- What an option asks for, with its arguments. -/
def Options.apply (x : Options) (o : OptionName) (arguments : List String) :
    Except ParseStop Options :=
  let one (f : String → Options) : Except ParseStop Options :=
    match arguments with
    | a :: _ => .ok (f a)
    | [] => .error (.fault .malformed)
  match o with
  | .help => .error .help
  | .config => one fun a => { x with config := some a }
  | .excludes => one fun a => { x with excludes := some a }
  | .includes => one fun a => { x with includes := some a }
  | .validate => .ok { x with validate := true }
  | .showFilters => .ok { x with showFilters := true }
  | .typeName => one fun a => { x with typeName := some a }
  | .properties => .ok { x with properties := arguments }
  | .verbose => .ok { x with verbose := true }
  | .logFile => one fun a => { x with logFile := some a }
  | .noColor => .ok { x with noColor := true }

/-- What several options without arguments ask for. -/
def Options.applyFlags (x : Options) (flags : List OptionName) : Except ParseStop Options :=
  flags.foldlM (fun x o => x.apply o []) x

/-- The arguments in front of the words. -/
def leadingArguments : List Word → List String
  | .argument s :: ws => s :: leadingArguments ws
  | _ => []

/-- The arguments that an option takes from the words behind it. -/
def takeArguments (o : OptionName) (ws : List Word) : Except UsageError (List String) :=
  let found := leadingArguments ws
  match o.arity with
  | .none => .ok []
  | .one => if found.isEmpty then .error (.missingArgument o) else .ok (found.take 1)
  | .some => if found.isEmpty then .error (.missingArgument o) else .ok found

/-- Two hyphens attached to an option are no argument. -/
def attachedArguments (cs : List Char) : List String :=
  if cs = ['-', '-'] then [] else [String.ofList cs]

/-- The options that a word stands for: some without arguments and one with those that it takes,
and the number of words behind it that are taken. -/
structure Expansion where
  flags : List OptionName
  last : OptionName
  arguments : List String
  taken : Nat
  deriving Repr

/-- The options that a word stands for. -/
def expand (o : OptionName) (short : Bool) (attached : Option (List Char)) (ws : List Word) :
    Except UsageError Expansion :=
  let open_ (flags : List OptionName) (last : OptionName) : Except UsageError Expansion := do
    let found ← takeArguments last ws
    return ⟨flags, last, found, found.length⟩
  match attached with
  | .none => open_ [] o
  | some cs =>
    match unbundle o short cs with
    | .error e => .error e
    | .ok (flags, last, .none) => open_ flags last
    | .ok (flags, last, some a) => .ok ⟨flags, last, attachedArguments a, 0⟩

/-- The text of a word that no option takes. -/
def Word.leftOver : Word → String
  | argument s | unknown s => s
  | separator => "--"
  | option o _ _ => o.title

/-- Goes through the words; also says which are left over. -/
def readWords (x : Options) (left : List String) :
    List Word → Except ParseStop (Options × List String)
  | [] => .ok (x, left)
  | .option o short attached :: ws =>
    match expand o short attached ws with
    | .error e => .error (.refused e)
    | .ok ⟨flags, last, arguments, taken⟩ =>
      match x.applyFlags flags with
      | .error stop => .error stop
      | .ok x =>
        match x.apply last arguments with
        | .error stop => .error stop
        | .ok x => readWords x left (ws.drop taken)
  | w :: ws => readWords x (left ++ [w.leftOver]) ws
termination_by ws => ws.length
decreasing_by all_goals (simp only [List.length_cons, List.length_drop]; omega)

/-- The options of a command line; no word may be left over. -/
def parseOptions (arguments : List String) : Except ParseStop Options :=
  match wordsOf arguments with
  | .error e => .error (.refused e)
  | .ok ws =>
    match readWords .none [] ws with
    | .error stop => .error stop
    | .ok (x, []) => .ok x
    | .ok (_, left) => .error (.refused (.unrecognized left))

@[simp] theorem parseOptions_nil : parseOptions [] = .ok .none := by
  simp [parseOptions, wordsOf, readWords]

end PropertyFilter.Command
