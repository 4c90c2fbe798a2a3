import PropertyFilter.File.Tree
import PropertyFilter.Filter.Notice
import PropertyFilter.Format.Toml.Document
import PropertyFilter.Format.Yaml.Document
import PropertyFilter.Text.Lowercase

/-!
# Configuration files

A configuration file holds a table in one of three formats, which is chosen by the suffix of its
name.

## Main definitions

* `FileFormat`: the formats, with their suffixes
* `asLines`: a text in which every line ends in a line feed
* `LoadError`: why a file holds no configuration
* `loadConfiguration`: the table in a file
-/

namespace PropertyFilter

/-- The formats of configuration files. -/
inductive FileFormat where
  | toml
  | yaml
  | json
  deriving DecidableEq, Repr, Inhabited

/-- A carriage return, alone or before a line feed, becomes a line feed. -/
def asLines : List Char → List Char
  | [] => []
  | '\r' :: '\n' :: cs => '\n' :: asLines cs
  | c :: cs => (if c = '\r' then '\n' else c) :: asLines cs

@[simp] theorem asLines_nil : asLines [] = [] := rfl

namespace FileFormat

/-- The suffixes of configuration files, with their formats. -/
def suffixes : List (String × FileFormat) :=
  [(".toml", toml), (".yaml", yaml), (".yml", yaml), (".json", json)]

/-- The format of a suffix, in capital or small letters. -/
def ofSuffix? (suffix : String) : Option FileFormat :=
  (suffixes.find? fun e => e.1 == Text.lowercase suffix).map Prod.snd

/-- The value that a text holds in a format. An empty document counts as an empty table where the
format has no table signs around it. -/
def read (format : FileFormat) (cs : List Char) : ReadResult Value :=
  match format with
  | toml => Toml.read cs
  | yaml => (Yaml.read (asLines cs)).map fun v => if v.isTruthy then v else .mapping none false []
  | json => Json.read (asLines cs)

end FileFormat

/-- Why a file holds no configuration. -/
inductive LoadError where
  /-- The suffix stands for no format; without a suffix, the name. -/
  | unknownFormat (suffix : String)
  | unreadable (path : String) (f : FileFailure)
  | malformed (path : String)
  | noTable (path : String)
  | fault (f : Fault)
  deriving DecidableEq, Repr, Inhabited

/-- The text of the report; a fault has none of its own. -/
def LoadError.message : LoadError → String
  | unknownFormat suffix =>
    "Unsupported configuration file type '" ++ suffix ++ "', expected one of: "
      ++ String.intercalate ", " (FileFormat.suffixes.map Prod.fst)
  | unreadable path f => "Failed to read configuration file " ++ path ++ ": " ++ f.message
  | malformed path => "Failed to parse configuration file " ++ path ++ ": malformed document"
  | noTable path => "Configuration file " ++ path ++ " must contain a table at the top level"
  | fault _ => ""

/-- The characters of a file. -/
def readCharacters (files : FileTree) (p : Path) : Except LoadError (List Char) :=
  match files.read p with
  | .error (.refused f) => .error (.unreadable p.text f)
  | .error .badPath => .error (.fault .malformed)
  | .ok octets =>
    match Text.decodeUtf8 octets with
    | some cs => .ok cs
    | none => .error (.fault .undecodable)

/-- The value in a file of some format. -/
def readFile (files : FileTree) (format : FileFormat) (p : Path) : Except LoadError Value :=
  match readCharacters files p with
  | .error e => .error e
  | .ok cs =>
    match format.read cs with
    | .ok v => .ok v
    | .error .malformed => .error (.malformed p.text)
    | .error (.fault f) => .error (.fault f)

/-- The format of a file by its name. -/
def formatOf (p : Path) : Except LoadError FileFormat :=
  match FileFormat.ofSuffix? p.suffix with
  | some format => .ok format
  | none =>
    let suffix := Text.lowercase p.suffix
    .error (.unknownFormat (if suffix = "" then p.name else suffix))

/-- A value that has to be a table. -/
def asTable (p : Path) (v : Value) : Except LoadError Value :=
  match v with
  | .mapping _ false _ => .ok v
  | _ => .error (.noTable p.text)

/-- The table in a file, or why there is none. -/
def readTable (files : FileTree) (p : Path) : Except LoadError Value := do
  let format ← formatOf p
  let v ← readFile files format p
  asTable p v

/-- The configuration in the file at a path, which may begin with the home directory. -/
def loadConfiguration (files : FileTree) (path : String) : Noticed LoadError Value :=
  match (Path.ofText path).expandHome files.home? with
  | .error f => .ofExcept (.error (.fault f))
  | .ok p =>
    match readTable files p with
    | .ok v => ⟨[.fileRead p.text], .ok v⟩
    | .error e => .ofExcept (.error e)

end PropertyFilter
