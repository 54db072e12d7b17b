import GuestImage.Release
import GuestImage.Text.Lines
import GuestImage.Run

/-!
# Loop devices

The file of an image is attached to a loop device, through which tools see it as a disk, and is
detached from it in any case (`withDevice`). A device that is not there any more counts as detached.
-/

namespace GuestImage

/-- A loop device and the file behind it. -/
structure LoopDevice where
  path : String
  backingFile : Path
  readOnly : Bool := false
  deriving DecidableEq, Repr

namespace LoopDevice

variable {σ α : Type}

/-- The record of a step on a device. -/
def recordOf (image : Option String) (operation level message : String) : LogRecord :=
  { operation, image, stage := none, message, tool := some "losetup", level }

/-- The call that attaches the file of a path. -/
def attachArgv (path : String) (readOnly : Bool) : List String :=
  ["losetup", "--find", "--show"] ++ (if readOnly then ["--read-only"] else []) ++ [path]

/-- The device that a tool reports: the last of its lines that is not blank. -/
def reported? (stdout : String) : Option String :=
  (((Text.lines stdout).map Text.trim).filter (!·.isEmpty)).getLast?

/-- The failure of the call that attaches. -/
def attachFailure (path : String) (image : Option String) (result : ToolResult)
    (status : String) : Failure :=
  .ofStage .loopDevice ("Failed to attach " ++ path ++ " to a loop device.")
    (some "Check that the loop module is loaded and a free device exists.")
    [("image", image.getD ""), ("operation", "attach"), ("path", path), ("returncode", status),
      ("stderr", result.diagnostics)]

/-- The failure of a call that attaches and reports no device. -/
def noDevice (path : String) (image : Option String) : Failure :=
  .ofStage .loopDevice "losetup did not report a device path." none
    [("image", image.getD ""), ("operation", "attach"), ("path", path)]

/-- Attaches the file of a path to a free device. -/
def attach (runner : Runner σ) (path : String) (readOnly : Bool) (image : Option String) :
    Procedure σ LoopDevice := do
  let result ← Procedure.call runner (attachArgv path readOnly) none
  if !result.ok then
    let status ← Action.ofExcept (decimal result.exitStatus)
    throw (attachFailure path image result status)
  match reported? result.stdout with
  | none => throw (noDevice path image)
  | some device =>
    Procedure.note (.deviceAttached device)
    Procedure.record
      (recordOf image "loop_attach" "debug" ("Attached " ++ path ++ " to " ++ device ++ "."))
    return ⟨device, Path.ofText path, readOnly⟩

/-- The failure of the call that detaches. -/
def detachFailure (device : LoopDevice) (image : Option String) (result : ToolResult)
    (status : String) : Failure :=
  .ofStage .loopDevice ("Failed to detach loop device " ++ device.path ++ ".")
    (some ("Detach it manually with `losetup --detach " ++ device.path ++ "`."))
    [("image", image.getD ""), ("operation", "detach"), ("device", device.path),
      ("returncode", status), ("stderr", result.diagnostics)]

/-- Detaches a device. -/
def detach (runner : Runner σ) (device : LoopDevice) (image : Option String) :
    Procedure σ Unit := do
  let result ← Procedure.call runner ["losetup", "--detach", device.path] none
  if result.ok then
    Procedure.record (recordOf image "loop_detach" "debug" ("Detached " ++ device.path ++ "."))
  else if result.isGone then
    Procedure.record
      (recordOf image "loop_detach" "debug" (device.path ++ " was already detached."))
  else
    let status ← Action.ofExcept (decimal result.exitStatus)
    throw (detachFailure device image result status)

/-- Logs a failure to detach after an earlier one. -/
def recordSuppressed (image : Option String) (e : Failure) : Procedure σ Unit :=
  Procedure.record
    (recordOf image "loop_detach" "warning" ("Detach failed after an earlier error: " ++ e.text))

/-- Steps on the device that the file of a path is attached to while they last. The attaching is
the start of a routine that is suspended then. -/
def withDevice (runner : Runner σ) (path : String) (readOnly : Bool) (image : Option String)
    (body : LoopDevice → Procedure σ α) : Procedure σ α := do
  let device ← Action.mapFailure .escaped (attach runner path readOnly image)
  releaseAfter (detach runner device image) (some (recordSuppressed image)) (body device)

end LoopDevice

end GuestImage
