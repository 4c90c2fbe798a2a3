import PropertyFilter.Log.World

/-!
# Histories of logging

The log is set up, callers install handlers of their own, and records are logged, in any order and
any number of times. A step that fails leaves the others to follow.

## Main definitions

* `LogStep`: what may happen to the log
* `World.take`, `World.run`: one step, and steps one after the other
-/

namespace PropertyFilter

/-- What may happen to the log. -/
inductive LogStep where
  /-- The log is set up. -/
  | setUp (settings : World.LogSettings)
  /-- A caller adds a handler that drops all records. -/
  | addNowhere (layout : Option Layout)
  /-- A caller adds a handler that writes to an output stream as it is now. -/
  | addStream (channel : Channel) (layout : Option Layout)
  /-- A caller adds a log file of its own. -/
  | addFile (path : String) (maxBytes backups : Int) (layout : Option Layout)
  /-- A record is logged. -/
  | log (record : Record)
  deriving Repr, Inhabited

namespace World

/-- Takes a step. A caller goes on without a log file of its own that cannot be opened. -/
def take (w : World) : LogStep → World × Option Fault
  | .setUp settings => w.setUpLog settings
  | .addNowhere layout => (w.addHandler ⟨.nowhere, layout⟩, none)
  | .addStream channel layout => (w.addHandler (w.streamHandler channel layout), none)
  | .addFile path maxBytes backups layout =>
    let (files, made) := FileLog.start w.files path maxBytes backups
    let w := { w with files := files }
    match made with
    | .ok l => (w.addHandler ⟨.file l, layout⟩, none)
    | .error _ => (w, none)
  | .log r => (w.log r, none)

/-- Takes steps one after the other; also says which of them fail. -/
def run (w : World) : List LogStep → World × List (Option Fault)
  | [] => (w, [])
  | step :: steps =>
    let (w, fault) := w.take step
    let (w, faults) := w.run steps
    (w, fault :: faults)

@[simp] theorem run_nil (w : World) : w.run [] = (w, []) := rfl

theorem run_cons (w : World) (step : LogStep) (steps : List LogStep) :
    w.run (step :: steps) =
      (((w.take step).1.run steps).1, (w.take step).2 :: ((w.take step).1.run steps).2) := rfl

/-- The world after more steps. -/
theorem fst_run_append (w : World) (steps more : List LogStep) :
    (w.run (steps ++ more)).1 = ((w.run steps).1.run more).1 := by
  induction steps generalizing w with
  | nil => rfl
  | cons step steps ih =>
    rw [List.cons_append, run_cons, run_cons]
    exact ih (w.take step).1

end World

end PropertyFilter
