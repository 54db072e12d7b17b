import GuestImage.Release
import GuestImage.Source

/-!
# Unpacking

The archive of a source is unpacked into a directory by `tar`, which reads its stream, or by other
steps on the files, which may write to the log. The source of `tar` is released in the end, and it
is as well if it is gone by then; any other failure to release it is reported unless the unpacking
had failed before.
-/

namespace GuestImage

/-- What unpacks an archive into a directory. -/
inductive Unpacker where
  /-- The tool, with more arguments at the end of its call. -/
  | tar (arguments : List String)
  /-- Steps on the files, and the records that they write to the log. -/
  | steps (unpack : Source → Path → FileAction Unit)
    (records : Source → Path → FileSystem → Log := fun _ _ _ => [])

namespace Unpacker

variable {σ : Type}

/-- The record of a step on a source, which is of no image in particular. -/
def recordOf (operation level message : String) (tool : Option String) : LogRecord :=
  { operation, image := none, stage := some "populate", message, tool, level }

/-- The call that unpacks into a directory. -/
def argv (target : Path) (arguments : List String) : List String :=
  ["tar", "-x", "-C", target.text] ++ arguments

/-- The failure to open the stream of a source. -/
def openFailure (target : Path) (cause : Failure) : Failure :=
  match cause.fault with
  | .refusal r =>
    .caused
      (.stage
        { code := .extraction
          message := "Failed to open the source stream."
          context :=
            ⟨[("operation", "extract"), ("target", target.text), ("cause", r.text)]⟩ })
      cause
  | _ => cause

/-- The failure of a call that unpacks. -/
def callFailure (target : Path) (argv : List String) (result : ToolResult) (status : String) :
    Failure :=
  .ofStage .extraction
    (if result.diagnostics.isEmpty then "tar extract failed."
      else "tar extract failed (stderr: " ++ result.diagnostics ++ ").")
    (some "Check that the source is a valid tar stream.")
    [("operation", "extract"), ("target", target.text), ("returncode", status),
      ("command", " ".intercalate argv)]

/-- Has the stream of a source unpacked into a directory. -/
def runTar (runner : Runner σ) (arguments : List String) (source : Source) (target : Path) :
    Procedure σ Unit := do
  let stream := { source with
    openStream := fun fs => (source.openStream fs).mapError (openFailure target) }
  let result ← Procedure.withStream stream fun stream =>
    Procedure.call runner (argv target arguments) (some stream)
  if result.ok then return ()
  if !result.diagnostics.isEmpty then
    Procedure.record
      (recordOf "extract" "error" ("tar stderr: " ++ result.diagnostics) (some "tar"))
  let status ← Action.ofExcept (decimal result.exitStatus)
  throw (callFailure target (argv target arguments) result status)

/-- The failure to release a source. -/
def releaseFailure (cause : Failure) : Failure :=
  .caused
    (.stage
      { code := .extraction
        message := "Source cleanup failed after extraction."
        context := ⟨[("operation", "source_cleanup"), ("cause", cause.text)]⟩ })
    cause

/-- Releases a source that may be gone. -/
def release (source : Source) : Procedure σ Unit := do
  match ← Action.attempt (Procedure.releaseSource source) with
  | .ok () => return ()
  | .error e =>
    if !e.isOrdinary then throw e
    if !e.isGone then throw (releaseFailure e)
    Procedure.record
      (recordOf "source_cleanup" "debug" "Source was already released." none)

/-- Logs a failure to release a source after an earlier one. -/
def recordSuppressed (e : Failure) : Procedure σ Unit :=
  Procedure.record
    (recordOf "source_cleanup" "warning"
      ("Source cleanup failed after an earlier error: " ++ e.text) none)

/-- Unpacks the archive of a source into a directory. -/
def unpack (runner : Runner σ) (unpacker : Unpacker) (source : Source) (target : Path) :
    Procedure σ Unit :=
  match unpacker with
  | .tar arguments =>
    releaseAfter (release source) (some recordSuppressed) (runTar runner arguments source target)
  | .steps unpack records => do
    modify fun w => { w with log := w.log ++ records source target w.files }
    Procedure.onFiles (unpack source target)

end Unpacker

end GuestImage
