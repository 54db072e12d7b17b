import GuestImage.LoopDevice
import GuestImage.Image
import GuestImage.Report.TrailingNumber

/-!
# Shrinking

An image comes down to its least size in two steps. Through a loop device its file system is
checked, asked for its least size, and resized to it; after the device is detached the file is cut
to that size. Only the latter gives the room back.
-/

namespace GuestImage.Shrinking

variable {σ : Type}

/-- The exit statuses of a check that found errors and mended them. -/
def correctedStatuses : List Int := [1, 2]

/-- The record of a step on an image. -/
def recordOf (image : Image) (operation level message : String) : LogRecord :=
  { operation, image := some image.uid, stage := some "shrink", message, level }

/-- Logs the failure of a step. -/
def recordFailure (image : Image) (operation message : String) : Procedure σ Unit :=
  Procedure.record (recordOf image operation "error" message)

/-- Has the file system checked. A check that fails is logged, and it is left to the resizing to
fail as well. -/
def check (runner : Runner σ) (image : Image) (device : LoopDevice) : Procedure σ Unit := do
  let result ← Procedure.call runner ["e2fsck", "-p", "-f", device.path] none
  if result.ok then return ()
  if correctedStatuses.contains result.exitStatus then
    Procedure.record
      { recordOf image "fsck" "info" "e2fsck corrected filesystem errors." with
        tool := some "e2fsck"
        extra := some (.object [("returncode", .int result.exitStatus)]) }
  else
    let status ← Action.ofExcept (decimal result.exitStatus)
    Procedure.record
      { recordOf image "fsck" "warning"
          ("e2fsck exited with " ++ status ++ "; continuing with resize.") with
        tool := some "e2fsck"
        extra := some (.object
          [("returncode", .int result.exitStatus), ("stderr", .text result.diagnostics)]) }

/-- The failure of the call that asks for the least size. -/
def estimateFailure (image : Image) (device : LoopDevice) (result : ToolResult)
    (status : String) : Failure :=
  .ofStage .resize ("Failed to estimate the minimum size of image " ++ image.uid ++ ".") none
    [("image", image.uid), ("operation", "estimate"), ("device", device.path),
      ("returncode", status), ("stderr", result.diagnostics)]

/-- The text that says the least size: what the tool wrote to its output, or else to its
diagnostics. -/
def estimateText (result : ToolResult) : String :=
  if (Text.trim result.stdout).isEmpty then result.stderr else result.stdout

/-- Asks for the least size, in blocks. -/
def estimate (runner : Runner σ) (image : Image) (device : LoopDevice) : Procedure σ Nat := do
  Procedure.record
    { recordOf image "estimate" "debug" ("Retrieving minimum size for " ++ device.path ++ ".") with
      tool := some "resize2fs" }
  let result ← Procedure.call runner ["resize2fs", "-P", device.path] none
  if !result.ok then
    recordFailure image "estimate" ("resize2fs -P failed on " ++ device.path ++ ".")
    let status ← Action.ofExcept (decimal result.exitStatus)
    throw (estimateFailure image device result status)
  match TrailingNumber.read (estimateText result) with
  | .error e =>
    match e.fault with
    | .stage _ =>
      recordFailure image "estimate" "Could not parse resize2fs -P output."
      throw (e.annotate [("image", image.uid), ("device", device.path)])
    | _ => throw e
  | .ok blocks =>
    let text ← Action.ofExcept (decimal blocks)
    Procedure.record
      { recordOf image "estimate" "debug" ("Minimum size: " ++ text ++ " blocks.") with
        tool := some "resize2fs"
        extra := some (.object [("blocks", .int blocks)]) }
    return blocks

/-- The failure of the call that resizes. -/
def resizeFailure (image : Image) (device : LoopDevice) (blocks : String) (result : ToolResult)
    (status : String) : Failure :=
  .ofStage .resize ("Failed to resize image " ++ image.uid ++ " to " ++ blocks ++ " blocks.") none
    [("image", image.uid), ("operation", "resize"), ("device", device.path), ("blocks", blocks),
      ("returncode", status), ("stderr", result.diagnostics)]

/-- Has the file system resized to a number of blocks. -/
def resize (runner : Runner σ) (image : Image) (device : LoopDevice) (blocks : Nat) :
    Procedure σ Unit := do
  let text ← Action.ofExcept (decimal blocks)
  let result ← Procedure.call runner ["resize2fs", device.path, text] none
  if result.ok then return ()
  recordFailure image "resize" ("resize2fs shrink to " ++ text ++ " blocks failed.")
  let status ← Action.ofExcept (decimal result.exitStatus)
  throw (resizeFailure image device text result status)

/-- Cuts the file of an image to a size. -/
def truncateFile (image : Image) (size : Int) : FileAction Unit := do
  let (place, _) ← Action.query (·.openFile image.fsPath true)
  Action.change (·.resizeFile place size)

/-- The failure to cut the file of an image. -/
def truncateFailure (image : Image) (size : String) (cause : Failure) : Failure :=
  .caused
    (.stage
      { code := .resize
        message := "Failed to shrink image " ++ image.uid ++ "."
        context :=
          ⟨[("image", image.uid), ("operation", "truncate"), ("path", image.fsPath.text),
            ("bytes", size), ("cause", cause.text)]⟩ })
    cause

/-- Cuts the file of an image to its least size; a refusal is a failure of the stage. -/
def truncate (image : Image) (minimum : MinimumSize) : Procedure σ Unit := do
  let text ← Action.ofExcept (decimal minimum.bytes)
  Procedure.record
    (recordOf image "truncate" "debug"
      ("Truncating " ++ image.fsPath.text ++ " to " ++ text ++ " bytes."))
  match ← Action.attempt (Procedure.onFiles (truncateFile image minimum.bytes)) with
  | .ok () => return ()
  | .error e =>
    match e.fault with
    | .refusal r =>
      recordFailure image "truncate" ("Failed to shrink image " ++ image.uid ++ ": " ++ r.text)
      throw (truncateFailure image text e)
    | _ => throw e

/-- Shrinks the file system on a device; the number of its blocks after it. -/
def shrinkDevice (runner : Runner σ) (image : Image) (device : LoopDevice) :
    Procedure σ Nat := do
  check runner image device
  let blocks ← estimate runner image device
  resize runner image device blocks
  return blocks

/-- Shrinks an image to its least size. -/
def shrink (runner : Runner σ) (image : Image) : Procedure σ MinimumSize := do
  let blocks ← LoopDevice.withDevice runner image.fsPath.text false (some image.uid)
    (shrinkDevice runner image)
  let minimum : MinimumSize := { blocks }
  truncate image minimum
  return minimum

end GuestImage.Shrinking
