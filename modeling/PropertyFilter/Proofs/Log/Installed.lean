import PropertyFilter.Proofs.Log.Keeping
import PropertyFilter.Proofs.Log.Sharing

/-!
# What stays of handlers

Logging a record may close and open the stream of a log file, and changes nothing else about
handlers. So what log files keep of the files is kept by logging as well.

## Main definitions

* `Handler.closed`, `World.installed`: handlers but for the streams of log files
* `World.Keeping K w`: `K` holds of the files, and the handlers keep it

## Main results

* `World.installed_log`: logging a record leaves the handlers that are installed
* `World.Keeping.log`: logging a record keeps what the handlers keep
-/

namespace PropertyFilter

/-- A handler but for the stream of its log file. -/
def Handler.closed (h : Handler) : Handler :=
  match h.sink with
  | .file l => { h with sink := .file l.closed }
  | _ => h

theorem Handler.closed_file (l : FileLog) (layout : Option Layout) :
    Handler.closed ⟨.file l, layout⟩ = ⟨.file l.closed, layout⟩ := rfl

namespace World

variable {w : World} {r : Record}

/-- The handlers of the log, whatever streams of log files are open. -/
def installed (w : World) : List Handler := w.handlers.map Handler.closed

theorem closed_accept (w : World) (h : Handler) (text : Except Fault String) :
    (w.accept h text).2.closed = h.closed := by
  obtain ⟨sink, layout⟩ := h
  unfold accept
  split
  · rfl
  · next _ l hsink =>
    obtain rfl : sink = .file l := hsink
    rw [Handler.closed_file, Handler.closed_file, FileLog.closed_take]
  · rfl

theorem closed_handleAll (w : World) (s : SharedRecord) (hs : List Handler) :
    (w.handleAll s hs).2.map Handler.closed = hs.map Handler.closed := by
  induction hs generalizing w s with
  | nil => rfl
  | cons h hs ih =>
    obtain ⟨s', -, hhandle⟩ := handle_eq w h s
    rw [handleAll, hhandle, List.map_cons, List.map_cons, ih]
    exact congrArg (· :: _) (closed_accept w h _)

/-- **Logging a record** changes nothing about handlers but the streams of log files. -/
theorem installed_log (w : World) (r : Record) : (w.log r).installed = w.installed := by
  rw [log_eq]
  split
  · rfl
  split
  · rw [lastResort_eq]
    split
    · exact congrArg (List.map Handler.closed) (handlers_accept w _ _)
    · rfl
  · exact closed_handleAll w (.ofRecord r) w.handlers

theorem installed_addHandler (w : World) (h : Handler) :
    (w.addHandler h).installed = w.installed ++ [h.closed] := by
  rw [installed, addHandler, List.map_append]
  rfl

/-! ## Files that handlers keep -/

/-- `K` holds of the files, and what the handlers do to files keeps it. -/
structure Keeping (K : FileTree → Prop) (w : World) : Prop where
  files : K w.files
  handlers : ∀ h ∈ w.installed, ∀ l, h.sink = .file l → l.Keeps K

namespace Keeping

variable {K : FileTree → Prop}

theorem accept (hw : K w.files) {h : Handler} (hh : ∀ l, h.closed.sink = .file l → l.Keeps K)
    (text : Except Fault String) : K (w.accept h text).1.files := by
  obtain ⟨sink, layout⟩ := h
  unfold World.accept
  split
  · rw [files_send]
    exact hw
  · next _ l hsink =>
    obtain rfl : sink = .file l := hsink
    have hkeeps : l.Keeps K := .of_closed (l := l.closed) rfl (hh l.closed rfl)
    exact hkeeps.take hw _
  · exact hw

theorem handleAll (hw : K w.files) (s : SharedRecord) {hs : List Handler}
    (hhs : ∀ h ∈ hs.map Handler.closed, ∀ l, h.sink = .file l → l.Keeps K) :
    K (w.handleAll s hs).1.files := by
  induction hs generalizing w s with
  | nil => exact hw
  | cons h hs ih =>
    rw [List.map_cons, List.forall_mem_cons] at hhs
    obtain ⟨s', -, hhandle⟩ := handle_eq w h s
    rw [World.handleAll, hhandle]
    exact ih (accept hw hhs.1 _) s' hhs.2

/-- **Logging a record** keeps what the handlers keep. -/
theorem log (hw : w.Keeping K) (r : Record) : (w.log r).Keeping K := by
  refine ⟨?_, by rw [installed_log]; exact hw.handlers⟩
  rw [log_eq]
  split
  · exact hw.files
  split
  · rw [lastResort_eq]
    split
    · exact accept hw.files (fun l hl => by simp [Handler.closed] at hl) _
    · exact hw.files
  · exact handleAll hw.files _ hw.handlers

end Keeping

end World

end PropertyFilter
