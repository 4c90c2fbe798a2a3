import PropertyFilter.Proofs.Log.Sharing

/-!
# Logging prints nothing

Handlers write to standard error and to files. As long as none of them writes to standard output,
logging leaves what has been printed as it is, and colours too.

## Main definitions

* `Handler.Quiet`, `World.Quiet`: no handler writes to standard output
* `Unprinted w w'`: from `w` to `w'` nothing has been printed

## Main results

* `unprinted_accept`: what one handler does with a text
* `unprinted_log`: logging a record prints nothing and keeps handlers quiet
* `unprinted_notices`: the same for notices
-/

namespace PropertyFilter

/-- A handler that does not write to standard output. -/
def Handler.Quiet (h : Handler) : Prop := ∀ layers, h.sink ≠ .stream .stdout layers

namespace World

/-- No handler writes to standard output. -/
def Quiet (w : World) : Prop := ∀ h ∈ w.handlers, h.Quiet

/-- Nothing has been printed on the way from `w` to `w'`, and colours are as they were. -/
structure Unprinted (w w' : World) : Prop where
  stdout : w'.stdout = w.stdout
  color : w'.color = w.color

namespace Unprinted

theorem refl (w : World) : Unprinted w w := ⟨rfl, rfl⟩

theorem trans {w w' w'' : World} (h : Unprinted w w') (h' : Unprinted w' w'') :
    Unprinted w w'' :=
  ⟨h'.stdout.trans h.stdout, h'.color.trans h.color⟩

end Unprinted

variable {w : World}

theorem unprinted_send_stderr (w : World) (layers : Nat) (cs : List Char) :
    Unprinted w (w.send .stderr layers cs) := ⟨rfl, rfl⟩

/-- **One handler**: a quiet one prints nothing, and stays quiet when its file is opened anew. -/
theorem unprinted_accept {h : Handler} (hq : h.Quiet) (text : Except Fault String) :
    Unprinted w (w.accept h text).1 ∧ (w.accept h text).2.Quiet := by
  unfold accept
  split
  · next c layers line hsink =>
    cases c with
    | stdout => exact absurd hsink (hq layers)
    | stderr => exact ⟨unprinted_send_stderr _ _ _, hq⟩
  · exact ⟨⟨rfl, rfl⟩, fun _ => by simp⟩
  · exact ⟨.refl w, hq⟩

theorem unprinted_handleAll {hs : List Handler} (hq : ∀ h ∈ hs, h.Quiet) (s : SharedRecord) :
    Unprinted w (w.handleAll s hs).1 ∧ ∀ h ∈ (w.handleAll s hs).2, h.Quiet := by
  induction hs generalizing w s with
  | nil => exact ⟨.refl w, hq⟩
  | cons h hs ih =>
    rw [List.forall_mem_cons] at hq
    obtain ⟨s', -, hhandle⟩ := handle_eq w h s
    obtain ⟨hfirst, hfirstQuiet⟩ := unprinted_accept (w := w) hq.1
      ((h.layout.getD .bare).format w.color s).2
    rw [handleAll, hhandle]
    obtain ⟨hrest, hrestQuiet⟩ := ih hq.2 s'
    exact ⟨hfirst.trans hrest, List.forall_mem_cons.mpr ⟨hfirstQuiet, hrestQuiet⟩⟩

/-- **Logging a record** prints nothing, and handlers stay quiet. -/
theorem unprinted_log (hq : w.Quiet) (r : Record) : Unprinted w (w.log r) ∧ (w.log r).Quiet := by
  rw [log_eq]
  split
  · exact ⟨.refl w, hq⟩
  split
  · rw [lastResort_eq]
    split
    · have hlast : Handler.Quiet ⟨.stream .stderr w.color.layers, none⟩ := fun _ => by simp
      refine ⟨(unprinted_accept hlast _).1, fun h hmem => hq h ?_⟩
      rwa [receive, handlers_accept] at hmem
    · exact ⟨.refl w, hq⟩
  · obtain ⟨hall, hallQuiet⟩ := unprinted_handleAll (w := w) hq (.ofRecord r)
    exact ⟨⟨hall.stdout, hall.color⟩, hallQuiet⟩

theorem unprinted_logText (hq : w.Quiet) (level : Int) (logger text : String) :
    Unprinted w (w.logText level logger text) ∧ (w.logText level logger text).Quiet :=
  unprinted_log hq _

/-- Logging notices prints nothing, and handlers stay quiet. -/
theorem unprinted_notices (hq : w.Quiet) (notices : List Notice) :
    Unprinted w (notices.foldl notice w) ∧ (notices.foldl notice w).Quiet := by
  induction notices generalizing w with
  | nil => exact ⟨.refl w, hq⟩
  | cons n notices ih =>
    obtain ⟨hfirst, hfirstQuiet⟩ := unprinted_logText hq debugLevel n.logger n.message
    obtain ⟨hrest, hrestQuiet⟩ := ih hfirstQuiet
    exact ⟨hfirst.trans hrest, hrestQuiet⟩

/-! ## Set-up -/

theorem unprinted_addHandler {h : Handler} (hq : w.Quiet) (hh : h.Quiet) :
    Unprinted w (w.addHandler h) ∧ (w.addHandler h).Quiet := by
  refine ⟨⟨rfl, rfl⟩, fun h' hmem => ?_⟩
  rcases List.mem_append.mp hmem with hmem | hmem
  · exact hq h' hmem
  · exact List.mem_singleton.mp hmem ▸ hh

/-- Where no handlers stay, the only one is that of the console, on standard error. -/
theorem unprinted_withConsole (w : World) :
    Unprinted w (w.withConsole false) ∧ (w.withConsole false).Quiet := by
  have hnone : ({ w with handlers := [] } : World).Quiet := by simp [Quiet]
  obtain ⟨hadd, hquiet⟩ := unprinted_addHandler hnone
    (h := streamHandler { w with handlers := [] } .stderr (some .console))
    (fun _ => by simp [streamHandler])
  exact ⟨⟨hadd.stdout, hadd.color⟩, hquiet⟩

end World

end PropertyFilter
