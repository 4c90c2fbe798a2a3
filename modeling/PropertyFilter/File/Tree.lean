import PropertyFilter.File.Path
import PropertyFilter.Text.Quoted
import PropertyFilter.Text.Utf8

/-!
# File trees

The files that a program sees: directories and files at places below the working directory, and at
places below the root. The content of a file is kept apart from its place, so that an open file can
be written after it has been moved.

There are neither links nor devices nor permissions, and no file stands at two places: a relative
path and an absolute one lead to different files, no path leads to the directory above the working
directory, and none to the standard output or error of the process. So nothing is said here about a
log file under a name such as `/dev/stdout`.

## Main definitions

* `FileTree`: places and contents
* `FileTree.home?`: the home directories of users
* `FileError`, `FileFailure`: why a file cannot be used
* `FileTree.resolve`: the place that a path leads to
* `FileTree.read`, `FileTree.openAppend`, `FileTree.makeDirectories`: the operations
* `FileTree.appendTo`, `FileTree.remove?`, `FileTree.displace?`: changes
-/

namespace PropertyFilter

/-- Why a file cannot be used. -/
inductive FileError where
  | notFound
  | alreadyThere
  | notDirectory
  | isDirectory
  | nameTooLong
  deriving DecidableEq, Repr, Inhabited

namespace FileError

/-- The number of an error. -/
def number : FileError → Nat
  | notFound => 2
  | alreadyThere => 17
  | notDirectory => 20
  | isDirectory => 21
  | nameTooLong => 36

/-- The description of an error. -/
def description : FileError → String
  | notFound => "No such file or directory"
  | alreadyThere => "File exists"
  | notDirectory => "Not a directory"
  | isDirectory => "Is a directory"
  | nameTooLong => "File name too long"

end FileError

/-- An error with the path at which it arose. -/
structure FileFailure where
  error : FileError
  path : String
  deriving DecidableEq, Repr, Inhabited

/-- How a failure reads. -/
def FileFailure.message (f : FileFailure) : String :=
  "[Errno " ++ toString f.error.number ++ "] " ++ f.error.description ++ ": "
    ++ Text.quoted f.path

/-- Why an operation on files fails: the file system refuses it, or the path is no path. -/
inductive FileFault where
  | refused (f : FileFailure)
  /-- A path with a null character in it. -/
  | badPath
  deriving DecidableEq, Repr, Inhabited

/-- What stands at a place. -/
inductive Node where
  | directory
  /-- A file, by the number of its content. -/
  | file (content : Nat)
  deriving DecidableEq, Repr, Inhabited

/-- What stands where, and the contents of files by number. -/
structure FileTree where
  /-- The absolute path of the working directory. -/
  base : String
  /-- The home directories by user; that of the process itself is under the empty name. -/
  homes : List (String × Path)
  nodes : List (Place × Node)
  contents : List (List UInt8)
  deriving Repr, Inhabited

namespace FileTree

/-- An empty working directory, which is also the home directory. -/
def empty (base : String) : FileTree := ⟨base, [("", ⟨.named base [], []⟩)], [], []⟩

/-- The home directory of a user, if it is known. -/
def home? (t : FileTree) (user : String) : Option Path :=
  (t.homes.find? fun h => h.1 == user).map Prod.snd

/-- What stands at a place; the working directory itself is always there. -/
def node? (t : FileTree) (p : Place) : Option Node :=
  if p = [] then some .directory
  else (t.nodes.find? fun e => e.1 == p).map Prod.snd

/-- The octets of a content. -/
def content (t : FileTree) (i : Nat) : List UInt8 := t.contents.getD i []

/-- The longest name, in octets. -/
def maxName : Nat := 255

/-- The longest path, in octets. -/
def maxPath : Nat := 4095

/-- The place of the root. -/
def rootPlace : Place := ["/"]

/-- Follows names from a place. Every name but the last has to lead to a directory; the place of
the last one need not be taken. -/
def walk (t : FileTree) (here : Place) : List String → Except FileError Place
  | [] => .ok here
  | n :: ns =>
    match t.node? here with
    | none => .error .notFound
    | some (.file _) => .error .notDirectory
    | some .directory =>
      if n = ".." then
        if here = [] then .error .notFound
        else walk t (if here = rootPlace then here else here.dropLast) ns
      else if maxName < n.utf8ByteSize then .error .nameTooLong
      else walk t (here ++ [n]) ns

/-- The place that a path leads to; outside the working directory nothing is known but what has been
put there. -/
def resolve (t : FileTree) (p : Path) : Except FileError Place :=
  if maxPath < p.text.utf8ByteSize then .error .nameTooLong
  else match p.anchor with
    | .here => t.walk [] p.names
    | .named _ place => t.walk place p.names
    | .root _ => t.walk rootPlace p.names

/-- A path with a null character is no path. -/
def hasNull (p : Path) : Bool := p.text.toList.contains '\x00'

/-- Refuses an operation on a path. -/
def refuse {α : Type} (e : FileError) (p : Path) : Except FileFault α :=
  .error (.refused ⟨e, p.text⟩)

/-- Takes an operation to the place of a path. -/
def atPlace {α : Type} (t : FileTree) (p : Path) (f : Place → Except FileError α) :
    Except FileFault α :=
  if hasNull p then .error .badPath
  else match t.resolve p with
    | .error e => refuse e p
    | .ok place =>
      match f place with
      | .ok a => .ok a
      | .error e => refuse e p

/-- The number of the content of the file at a place. -/
def fileAt (t : FileTree) (place : Place) : Except FileError Nat :=
  match t.node? place with
  | none => .error .notFound
  | some .directory => .error .isDirectory
  | some (.file i) => .ok i

/-- The octets of a file. -/
def read (t : FileTree) (p : Path) : Except FileFault (List UInt8) :=
  t.atPlace p fun place => (t.fileAt place).map t.content

/-- Whether something stands where a path leads. -/
def has (t : FileTree) (p : Path) : Bool :=
  match t.resolve p with
  | .ok place => (t.node? place).isSome
  | .error _ => false

/-- Whether a path leads to a directory. -/
def isDirectory (t : FileTree) (p : Path) : Bool :=
  match t.resolve p with
  | .ok place => t.node? place == some .directory
  | .error _ => false

/-- Whether a path leads to a file. -/
def isFile (t : FileTree) (p : Path) : Bool :=
  match t.resolve p with
  | .ok place => (match t.node? place with
    | some (.file _) => true
    | _ => false)
  | .error _ => false

/-- Puts something at a place. -/
def set (t : FileTree) (place : Place) (n : Node) : FileTree :=
  { t with nodes := (place, n) :: t.nodes.filter fun e => e.1 != place }

/-- Takes away what stands at a place. -/
def clear (t : FileTree) (place : Place) : FileTree :=
  { t with nodes := t.nodes.filter fun e => e.1 != place }

/-- Whether the directory in which a place lies is there. -/
def checkParent (t : FileTree) (place : Place) : Except FileError Unit :=
  match t.node? place.dropLast with
  | none => .error .notFound
  | some (.file _) => .error .notDirectory
  | some .directory => .ok ()

/-- Makes a new file with some content. -/
def create (t : FileTree) (place : Place) (bs : List UInt8) : FileTree × Nat :=
  let i := t.contents.length
  ({ (t.set place (.file i)) with contents := t.contents ++ [bs] }, i)

/-- Makes one directory. -/
def makeDirectory (t : FileTree) (p : Path) : Except FileFault FileTree :=
  t.atPlace p fun place =>
    match t.node? place with
    | some _ => .error .alreadyThere
    | none =>
      match t.checkParent place with
      | .error e => .error e
      | .ok () => .ok (t.set place .directory)

/-- Makes a directory and those on the way to it; one that is there already will do. `fuel` bounds
the number of names. Directories on the way stay where the last one cannot be made. -/
def makeDirectoriesFuel : (fuel : Nat) → FileTree → Path → FileTree × Except FileFault Unit
  | fuel, t, p =>
    match t.makeDirectory p with
    | .ok t' => (t', .ok ())
    | .error .badPath => (t, .error .badPath)
    | .error (.refused f) =>
      if f.error = .notFound then
        match fuel with
        | 0 => (t, .error (.refused f))
        | fuel + 1 =>
          if p.names = [] then (t, .error (.refused f))
          else match makeDirectoriesFuel fuel t p.parent with
            | (t', .error e) => (t', .error e)
            | (t', .ok ()) =>
              match t'.makeDirectory p with
              | .ok t'' => (t'', .ok ())
              | .error e => (t', if t'.isDirectory p then .ok () else .error e)
      else (t, if t.isDirectory p then .ok () else .error (.refused f))

/-- Makes a directory and those on the way to it; one that is there already will do. -/
def makeDirectories (t : FileTree) (p : Path) : FileTree × Except FileFault Unit :=
  makeDirectoriesFuel p.names.length t p

/-- Opens a file for writing at its end and makes it if it is not there. -/
def openAppend (t : FileTree) (p : Path) : Except FileFault (FileTree × Nat) :=
  t.atPlace p fun place =>
    match t.node? place with
    | some (.file i) => .ok (t, i)
    | some .directory => .error .isDirectory
    | none =>
      match t.checkParent place with
      | .error e => .error e
      | .ok () => .ok (t.create place [])

/-- Writes octets at the end of a content. -/
def appendTo (t : FileTree) (i : Nat) (bs : List UInt8) : FileTree :=
  { t with contents := t.contents.set i (t.content i ++ bs) }

/-- Takes away the file at a path, if there is one; a directory is not taken away. -/
def remove? (t : FileTree) (p : Path) : Option FileTree :=
  match t.resolve p with
  | .error _ => some t
  | .ok place =>
    match t.node? place with
    | none => some t
    | some (.file _) => some (t.clear place)
    | some .directory => none

/-- The place of something at or below `source` after a move to `target`. -/
def movedPlace (source target place : Place) : Place :=
  if source.isPrefixOf place then target ++ place.drop source.length else place

/-- Moves what stands at a path, and everything below it, to another path. -/
def move (t : FileTree) (source target : Path) : FileTree :=
  match t.resolve source, t.resolve target with
  | .ok a, .ok b => { t with nodes := t.nodes.map fun e => (movedPlace a b e.1, e.2) }
  | _, _ => t

/-- Moves what stands at a path to another, in place of a file there; none when a directory is in
the way. -/
def displace? (t : FileTree) (source target : Path) : Option FileTree :=
  (t.remove? target).map fun t => t.move source target

/-- Puts a file at a path and makes the directories on the way. -/
def install (t : FileTree) (p : Path) (bs : List UInt8) : FileTree :=
  let t := (t.makeDirectories p.parent).1
  match t.resolve p with
  | .ok place => (t.create place bs).1
  | .error _ => t

/-- Puts a directory at a path. -/
def installDirectory (t : FileTree) (p : Path) : FileTree :=
  (t.makeDirectories p).1

@[simp] theorem node?_nil (t : FileTree) : t.node? [] = some .directory := by simp [node?]

theorem node?_set_self (t : FileTree) {place : Place} (n : Node) (h : place ≠ []) :
    (t.set place n).node? place = some n := by
  simp [node?, set, h]

end FileTree

end PropertyFilter
