import PropertyFilter.Filter.OutputFilters
import PropertyFilter.Format.ConfigurationFile

/-!
# Overrides of a configuration

The command line may list names for a side of the configuration in a file. They replace what the
file lists for any type; where the file has a mapping by types, they are kept beside it.

## Main definitions

* `MergedConfiguration`: a configuration and the names beside it
* `MergedConfiguration.override`: puts listed names in
* `buildConfiguration`: the configuration in a file with the overrides
-/

namespace PropertyFilter

/-- A configuration and the names that are listed beside it. -/
structure MergedConfiguration where
  entries : List (Value × Value)
  extra : List (Side × List String)
  deriving Repr, Inhabited

namespace MergedConfiguration

/-- The configuration as a value. -/
def configuration (m : MergedConfiguration) : Value := .mapping none false m.entries

/-- Whether the configuration has a mapping for a side. -/
def hasMapping (m : MergedConfiguration) (s : Side) : Bool :=
  ((Entries.findText? m.entries s.key).map Value.isMapping).getD false

/-- Puts a text that lists names in for a side: in place of what is there, or beside a mapping. -/
def override (s : Side) (names : Option String) (m : MergedConfiguration) : MergedConfiguration :=
  match names with
  | none => m
  | some text =>
    if m.hasMapping s then { m with extra := m.extra ++ [(s, Text.NameList.read text)] }
    else { m with entries := Entries.insert (.text s.key) (.text text) m.entries }

/-- The names beside the configuration of a side. -/
def extraNames (m : MergedConfiguration) (s : Side) : List String :=
  ((m.extra.find? fun e => e.1 == s).map Prod.snd).getD []

/-- The names beside the configuration of a side, as a value. -/
def extraValue (m : MergedConfiguration) (s : Side) : Value :=
  .tuple none ((m.extraNames s).map .text)

/-- The filters that the configuration and the names beside it describe. -/
def filters (m : MergedConfiguration) : Noticed BuildError OutputFilters :=
  OutputFilters.build m.configuration (m.extraValue .excludes) (m.extraValue .includes)

@[simp] theorem override_none (s : Side) (m : MergedConfiguration) : m.override s none = m := rfl

end MergedConfiguration

/-- A configuration with nothing beside it, and with overrides for both sides. -/
def mergeOverrides (entries : List (Value × Value)) (excludes includes : Option String) :
    MergedConfiguration :=
  ((⟨entries, []⟩ : MergedConfiguration).override .excludes excludes).override .includes includes

/-- The entries of the configuration in a file; without a file there are none. -/
def fileEntries (files : FileTree) (file : Option String) :
    Noticed LoadError (List (Value × Value)) :=
  match file with
  | none | some "" => .done []
  | some path => do
    let v ← loadConfiguration files path
    return Entries.ofList (v.entries?.getD [])

theorem fileEntries_some {files : FileTree} {path : String} (h : path ≠ "") :
    fileEntries files (some path) = (do
      let v ← loadConfiguration files path
      return Entries.ofList (v.entries?.getD [])) := by
  unfold fileEntries
  split
  · contradiction
  · next heq => exact absurd (Option.some.inj heq) h
  · next heq =>
    obtain rfl := Option.some.inj heq
    rfl

/-- The configuration in a file with the overrides. -/
def buildConfiguration (files : FileTree) (file excludes includes : Option String) :
    Noticed LoadError MergedConfiguration := do
  let entries ← fileEntries files file
  return mergeOverrides entries excludes includes

end PropertyFilter
