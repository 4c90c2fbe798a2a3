import PropertyFilter.File.Tree

/-!
# Rotating log files

A log file is moved aside when the next line would fill it up to its size limit: the file becomes
the first backup, every backup moves on by one, and the last one is given up. Without a limit, or
without backups, a file only grows.

## Main definitions

* `FileLog`: an open log file with its limits
* `FileLog.start`: opening one
* `FileLog.isFull`, `FileLog.rotate`: when and how it is moved aside
* `FileLog.write`, `FileLog.take`: writing a line, and taking the text of a record
-/

namespace PropertyFilter

/-- An open log file. -/
structure FileLog where
  path : Path
  /-- The size limit in octets; there is none unless it is positive. -/
  maxBytes : Int
  /-- The number of backups; a file is not moved aside unless it is positive. -/
  backups : Int
  /-- The number of the content that is written to; none when it could not be opened again. -/
  stream : Option Nat
  deriving Repr, Inhabited

namespace FileLog

/-- Opens a log file and makes the directories on the way to it. -/
def start (t : FileTree) (path : String) (maxBytes backups : Int) :
    FileTree × Except FileFault FileLog :=
  let p := Path.ofText path
  match t.makeDirectories p.parent with
  | (t, .error e) => (t, .error e)
  | (t, .ok ()) =>
    let p := p.normalized t.base
    match t.openAppend p with
    | .error e => (t, .error e)
    | .ok (t, i) => (t, .ok ⟨p, maxBytes, backups, some i⟩)

/-- The place of a backup. -/
def backup (l : FileLog) (n : Nat) : Path := l.path.extended ("." ++ toString n)

/-- Opens the file again. -/
def reopen (l : FileLog) (t : FileTree) : FileTree × FileLog :=
  match t.openAppend l.path with
  | .ok (t, i) => (t, { l with stream := some i })
  | .error _ => (t, { l with stream := none })

/-- Opens the file unless it is open. -/
def ready (l : FileLog) (t : FileTree) : FileTree × FileLog :=
  match l.stream with
  | some _ => (t, l)
  | none => l.reopen t

/-- Whether a line of some length would fill the file up to its limit. The size counts octets, the
line characters. -/
def isFull (l : FileLog) (t : FileTree) (length : Nat) : Bool :=
  match l.stream with
  | some i => 0 < l.maxBytes && l.maxBytes ≤ ((t.content i).length + length : Nat)
  | none => false

/-- Moves backups on by one, the last first, and then the file itself. It ends early, and says so,
where a directory is in the way. -/
def shift (l : FileLog) (t : FileTree) : (count : Nat) → FileTree × Bool
  | 0 =>
    match t.displace? l.path (l.backup 1) with
    | some t => (t, true)
    | none => (t, false)
  | n + 1 =>
    if t.has (l.backup (n + 1)) then
      match t.displace? (l.backup (n + 1)) (l.backup (n + 2)) with
      | some t => l.shift t n
      | none => (t, false)
    else l.shift t n

/-- Moves the file aside and opens a new one; also says whether that went well. Where it did not,
the file is closed. -/
def rotate (l : FileLog) (t : FileTree) : FileTree × FileLog × Bool :=
  let (t, moved) := if 0 < l.backups then l.shift t (l.backups - 1).toNat else (t, true)
  if moved then
    let (t, l) := l.reopen t
    (t, l, true)
  else (t, { l with stream := none }, false)

/-- Whether something other than a file stands in the way of moving the file aside. -/
def isBlocked (l : FileLog) (t : FileTree) : Bool := t.has l.path && !t.isFile l.path

/-- Makes room for a text: moves a full file aside. Also says whether that went well. -/
def makeRoom (l : FileLog) (t : FileTree) (length : Nat) : FileTree × FileLog × Bool :=
  if l.isBlocked t then (t, l, true)
  else
    let (t, l) := l.ready t
    if l.isFull t length then l.rotate t else (t, l, true)

/-- Writes octets at the end of the file, which is opened if need be. -/
def append (l : FileLog) (t : FileTree) (bs : List UInt8) : FileTree × FileLog :=
  let (t, l) := l.ready t
  match l.stream with
  | some i => (t.appendTo i bs, l)
  | none => (t, l)

/-- Writes a line at the end of the file, after moving a full file aside. A line that no room can be
made for is dropped. -/
def write (l : FileLog) (t : FileTree) (line : String) : FileTree × FileLog :=
  let text := line ++ "\n"
  match l.makeRoom t text.length with
  | (t, l, true) => l.append t (Text.encodeUtf8 text)
  | (t, l, false) => (t, l)

/-- Takes the text of a record. One that cannot be laid out has none; the file is opened for it all
the same. -/
def take (l : FileLog) (t : FileTree) : Except Fault String → FileTree × FileLog
  | .ok line => l.write t line
  | .error _ => l.ready t

end FileLog

end PropertyFilter
