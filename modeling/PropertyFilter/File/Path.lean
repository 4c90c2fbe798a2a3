import PropertyFilter.Fault
import PropertyFilter.Text.Lowercase
import PropertyFilter.Text.Fields

/-!
# Paths

A path is a sequence of names, taken from the working directory or from the root. Empty names and
single dots are left out when a path is read; double dots are kept, since what they mean depends
on the files that are there.

## Main definitions

* `Path`, `Path.ofText`, `Path.text`: paths, read and written
* `Path.name`, `Path.suffix`, `Path.parent`: parts of a path
* `Path.expandHome`: a path with a home directory in place of a leading tilde and user
* `Path.normalized`: a path with double dots resolved by text alone, from the working directory
-/

namespace PropertyFilter

/-- A place: the names that lead to it from the working directory. The root is a place behind the
name of a single slash. -/
abbrev Place := List String

/-- Where a path starts. -/
inductive Anchor where
  /-- At the working directory, unnamed. -/
  | here
  /-- At the root, written with one or two slashes. -/
  | root (slashes : String)
  /-- At the directory at a place, named by its absolute path. -/
  | named (absolute : String) (place : Place)
  deriving DecidableEq, Repr, Inhabited

/-- A starting point and the names that lead on from it. -/
structure Path where
  anchor : Anchor
  names : List String
  deriving DecidableEq, Repr, Inhabited

namespace Path

/-- Names separated by slashes, without empty names and single dots. -/
def namesOf (cs : List Char) : List String :=
  ((Text.fields '/' cs).map String.ofList).filter fun n => n != "" && n != "."

/-- Two slashes in front are kept, three or more mean one. -/
def anchorOf : List Char → Anchor
  | '/' :: '/' :: '/' :: _ => .root "/"
  | '/' :: '/' :: _ => .root "//"
  | '/' :: _ => .root "/"
  | _ => .here

/-- Reads a path. -/
def ofText (s : String) : Path := ⟨anchorOf s.toList, namesOf s.toList⟩

/-- The text of a path; the working directory itself is a single dot. -/
def text (p : Path) : String :=
  let rest := String.intercalate "/" p.names
  match p.anchor with
  | .here => if p.names.isEmpty then "." else rest
  | .root slashes => slashes ++ rest
  | .named absolute _ => if p.names.isEmpty then absolute else absolute ++ "/" ++ rest

/-- The last name of a path. -/
def name (p : Path) : String := p.names.getLastD ""

/-- What a name ends in from its last dot on, unless the dot is its first or last character. -/
def suffixOf (n : String) : String :=
  let reversed := n.toList.reverse
  let tail := reversed.takeWhile (· ≠ '.')
  match reversed.dropWhile (· ≠ '.') with
  | _ :: _ :: _ => if tail.isEmpty then "" else String.ofList ('.' :: tail.reverse)
  | _ => ""

/-- The suffix of the last name, dot included. -/
def suffix (p : Path) : String := suffixOf p.name

/-- The path without its last name. -/
def parent (p : Path) : Path := { p with names := p.names.dropLast }

/-- A sibling with something added to the last name. -/
def extended (p : Path) (more : String) : Path :=
  { p with names := p.names.dropLast ++ [p.name ++ more] }

/-- Puts a home directory in place of a first name with a tilde in front. Behind the tilde stands a
user, of the process if it is empty, whose home has to be known. -/
def expandHome (home? : String → Option Path) (p : Path) : Except Fault Path :=
  match p.anchor, p.names with
  | .here, n :: ns =>
    match n.toList with
    | '~' :: user =>
      if user.contains '\x00' then .error .malformed
      else match home? (String.ofList user) with
        | some h => .ok ⟨h.anchor, h.names ++ ns⟩
        | none => .error .unknownHome
    | _ => .ok p
  | _, _ => .ok p

/-- Resolves double dots by dropping the name before. -/
def collapse (names : List String) : List String :=
  (names.foldl (fun acc n => if n = ".." then acc.drop 1 else n :: acc) []).reverse

/-- The path named from the root, given the working directory's absolute path, with double dots
resolved by text alone. -/
def normalized (base : String) (p : Path) : Path :=
  match p.anchor with
  | .here => ⟨.named base [], collapse p.names⟩
  | anchor => ⟨anchor, collapse p.names⟩

@[simp] theorem text_here_nil : text ⟨.here, []⟩ = "." := rfl

end Path

end PropertyFilter
