import PropertyFilter.Command.Run

/-!
# The program

Takes a snapshot of the surroundings that a command line speaks of, runs the command, and carries
its output and the changes to log files over to the real surroundings.

## Main definitions

* `Program.surroundings`: the snapshot
* `Program.carryOver`: output and changed files
* `main`: the program
-/

namespace PropertyFilter.Program

open Command (parseOptions)

/-- The environment and the terminal. -/
def environment : IO Terminal.Environment := do
  let names := ["NO_COLOR", "FORCE_COLOR", "TERM", "COLORTERM"]
  let e ← names.foldlM
    (fun e n => do return e.setVariable n (← IO.getEnv n)) Terminal.Environment.bare
  return { e with terminal := ← (← IO.getStdout).isTty }

/-- The octets of a real file. -/
def readOctets? (path : String) : IO (Option (List UInt8)) := do
  try return some (← IO.FS.readBinFile path).toList
  catch _ => return none

/-- Whether a real path leads to a directory. -/
def isRealDirectory (path : String) : IO Bool := do
  ((← IO.currentDir) / path).isDir

/-- Takes what stands at a path into a snapshot. -/
def takeIn (files : FileTree) (p : Path) : IO FileTree := do
  match ← readOctets? p.text with
  | some bs => return files.install p bs
  | none => return if ← isRealDirectory p.text then files.installDirectory p else files

/-- The directory that the text of a home names: slashes alone name the root, and a text with a
tilde in front names none. -/
def homePath? (text : String) : Option Path :=
  if text.toList.head? = some '~' then none
  else if text.toList.all (· = '/') then some (Path.ofText "/")
  else some (Path.ofText text)

/-- The users of the system and the texts of their homes. -/
def userHomes : IO (List (String × String)) := do
  let octets ← readOctets? "/etc/passwd"
  let lines := Text.fields '\n' ((octets.bind Text.decodeUtf8).getD [])
  return lines.filterMap fun line =>
    match Text.fields ':' line with
    | [user, _, _, _, _, home, _] => some (String.ofList user, String.ofList home)
    | _ => none

/-- The paths that a command line speaks of: the configuration, the log file and its backups. -/
def mentionedPaths (home? : String → Option Path) (arguments : List String) : List Path :=
  match parseOptions arguments with
  | .error _ => []
  | .ok x =>
    let config := (x.config.bind fun s => ((Path.ofText s).expandHome home?).toOption).toList
    let log := (x.logFile.map Path.ofText).toList
    let backups := log.flatMap fun p =>
      (List.range 3).map fun i : Nat => p.extended ("." ++ toString (i + 1))
    config ++ log.map Path.parent ++ log ++ backups

/-- The snapshot of the surroundings that a command line speaks of. -/
def surroundings (arguments : List String) : IO World := do
  let base := (← IO.currentDir).toString
  let own := (← IO.getEnv "HOME").map fun home => ("", home)
  let files := { FileTree.empty base with
    homes := (own.toList ++ (← userHomes)).filterMap fun (user, home) =>
      (homePath? home).map (user, ·) }
  let files ← (mentionedPaths files.home? arguments).foldlM takeIn files
  return World.start (← environment) files

/-- The real path of a place. -/
def realPath (place : Place) : String :=
  match place with
  | "/" :: names => "/" ++ String.intercalate "/" names
  | names => String.intercalate "/" names

/-- Writes the files that have changed and takes away those that are gone. -/
def carryFiles (old new : FileTree) : IO Unit := do
  for (place, node) in new.nodes.reverse do
    match node with
    | .directory =>
      if old.node? place != some .directory then IO.FS.createDirAll (realPath place)
    | .file i =>
      let bs := new.content i
      let unchanged := match old.node? place with
        | some (.file k) => old.content k == bs
        | _ => false
      if !unchanged then IO.FS.writeBinFile (realPath place) ⟨bs.toArray⟩
  for (place, node) in old.nodes do
    if node != .directory && (new.node? place).isNone then IO.FS.removeFile (realPath place)

/-- Writes output and changed files, and gives the status to end with. -/
def carryOver (old : FileTree) (r : Command.RunResult) : IO UInt32 := do
  let (w, ending) := r
  (← IO.getStdout).putStr (String.ofList w.stdout)
  (← IO.getStderr).putStr (String.ofList w.stderr)
  try carryFiles old w.files
  catch e => (← IO.getStderr).putStrLn (toString e)
  match ending with
  | .status n => return UInt32.ofNat n
  | .crash f =>
    (← IO.getStderr).putStrLn (Command.programName ++ ": " ++ f.message)
    return 1

end PropertyFilter.Program

open PropertyFilter in
/-- Runs the command line. -/
def main (arguments : List String) : IO UInt32 := do
  let w ← Program.surroundings arguments
  Program.carryOver w.files (Command.run w arguments)
