import GuestImage.Log
import GuestImage.Tool

/-!
# Runs

A provisioning run reads and changes files, calls tools through a runner, appends to the log, and
has the names of its temporary directories counted. What it does beyond reading and writing files
is also kept as a history of events, the newest last, so that one can say in which order tools were
called and resources were held and let go.
-/

namespace GuestImage

/-- A call of a tool: its arguments, what it read of its input, how it ended, and the files before
and after it. -/
structure Call where
  argv : List String
  consumed : Option (List UInt8)
  outcome : Except Failure ToolResult
  before : FileSystem
  after : FileSystem

/-- What happens in a run. -/
inductive Event where
  /-- A tool was called. -/
  | called (call : Call)
  /-- It was checked whether tools can be called. -/
  | checked (tools : List String)
  /-- The stream of a source was opened. -/
  | streamOpened
  /-- The stream of a source was closed. -/
  | streamClosed
  /-- The release of a source was run. -/
  | sourceReleased
  /-- The file of an image was attached to a device. -/
  | deviceAttached (device : String)
  /-- A directory to mount an image on was made. -/
  | mountpointMade (dir : Path)
  /-- A directory to mount an image on was removed, with what was in it. -/
  | mountpointRemoved (dir : Path)

/-- What a run reads and changes. The state of the runner is its own. -/
structure Run (σ : Type) where
  files : FileSystem
  runner : σ
  log : Log := []
  history : List Event := []
  /-- The number of the next name of a temporary directory. -/
  nextTemporary : Nat := 1

/-- Steps of a run. -/
abbrev Procedure (σ : Type) := Action (Run σ)

namespace Procedure

variable {σ α : Type}

/-- Steps on the files. -/
def onFiles (act : FileAction α) : Procedure σ α :=
  Action.focus Run.files (fun w files => { w with files }) act

/-- Appends an event to the history. -/
def note (event : Event) : Procedure σ Unit := fun w =>
  (.ok (), { w with history := w.history ++ [event] })

/-- Appends a record to the log. -/
def record (r : LogRecord) : Procedure σ Unit := fun w =>
  (.ok (), { w with log := w.log ++ [r] })

/-- Calls a tool. -/
def call (runner : Runner σ) (argv : List String) (stdin : Option ByteStream) :
    Procedure σ ToolResult := fun w =>
  let (done, state, files) := runner.run argv stdin (w.runner, w.files)
  (done.outcome,
    { w with
      runner := state
      files
      history := w.history ++ [.called ⟨argv, done.consumed, done.outcome, w.files, files⟩] })

/-- Fails if one of the tools cannot be called. -/
def ensureAvailable (runner : Runner σ) (tools : List String) : Procedure σ Unit := fun w =>
  (runner.ensureAvailable tools w.runner, { w with history := w.history ++ [.checked tools] })

@[simp]
theorem onFiles_apply (act : FileAction α) (w : Run σ) :
    onFiles act w = ((act w.files).1, { w with files := (act w.files).2 }) := rfl

@[simp]
theorem note_apply (event : Event) (w : Run σ) :
    note event w = (.ok (), { w with history := w.history ++ [event] }) := rfl

@[simp]
theorem record_apply (r : LogRecord) (w : Run σ) :
    record r w = (.ok (), { w with log := w.log ++ [r] }) := rfl

end Procedure

end GuestImage
