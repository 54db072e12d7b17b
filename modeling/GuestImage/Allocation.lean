import GuestImage.Image
import GuestImage.Run

/-!
# Allocation and formatting

The file of an image is made anew and given its size without writing anything, so that it takes no
room before it is used, and is then formatted. Tables and journal are written at once: left to the
first mount, that work would be done in the guest.
-/

namespace GuestImage.Allocation

variable {σ : Type}

/-- What is written at once. -/
def extendedOptions : String := "lazy_itable_init=0,lazy_journal_init=0"

/-- The call that formats the file of a path. -/
def formatArgv (path : String) : List String :=
  ["mkfs.ext4", "-b", toString Image.blockSize, "-I", toString Image.inodeSize, "-F", "-E",
    extendedOptions, path]

/-- The record of a step on an image. -/
def recordOf (image : Image) (operation level message : String) : LogRecord :=
  { operation, image := some image.uid, stage := some "format", message, level }

/-- Makes the file of an image and gives it its size. -/
def allocateFile (image : Image) (size : Int) : FileAction Unit := do
  FileAction.makeDirectories image.fsPath.parent FileAction.directoryMode
  let place ← FileAction.create image.fsPath
  Action.change (·.resizeFile place size)

/-- The failure to make the file of an image. -/
def allocationFailure (image : Image) (size : String) (cause : Failure) : Failure :=
  .caused
    (.stage
      { code := .allocation
        message := "Failed to allocate space for image " ++ image.uid ++ "."
        hint := some "Check permissions and free space in the object directory."
        context :=
          ⟨[("image", image.uid), ("operation", "allocate"), ("path", image.fsPath.text),
            ("bytes", size), ("cause", cause.text)]⟩ })
    cause

/-- Makes the file of an image; a refusal is a failure of the stage. -/
def allocate (image : Image) (size : Int) : Procedure σ Unit := do
  match ← Action.attempt (Procedure.onFiles (allocateFile image size)) with
  | .ok () => return ()
  | .error e =>
    match e.fault with
    | .refusal r =>
      Procedure.record
        (recordOf image "allocate" "error"
          ("Failed to allocate space for image " ++ image.uid ++ ": " ++ r.text))
      let text ← Action.ofExcept (decimal size)
      throw (allocationFailure image text e)
    | _ => throw e

/-- What is said of an image that could not be formatted. -/
def formatMessage (image : Image) (result : ToolResult) : String :=
  "Failed to format image " ++ image.uid ++
    if result.diagnostics.isEmpty then "." else " (stderr: " ++ result.diagnostics ++ ")."

/-- The failure of the call that formats. -/
def formatFailure (image : Image) (argv : List String) (result : ToolResult) (status : String) :
    Failure :=
  .ofStage .format (formatMessage image result)
    (some "Check mkfs.ext4 output and free space in the object directory.")
    [("image", image.uid), ("operation", "format"), ("path", image.fsPath.text),
      ("returncode", status), ("stderr", result.diagnostics), ("command", " ".intercalate argv)]

/-- Makes the file of an image, of a size, and has it formatted. -/
def build (runner : Runner σ) (image : Image) (size : Int) : Procedure σ Path := do
  Procedure.record
    { recordOf image "allocate" "info" "Allocating image file and formatting it with ext4." with
      extra := some
        (.object [("path", .text image.fsPath.text), ("allocated_bytes", .int size)]) }
  allocate image size
  let argv := formatArgv image.fsPath.text
  let result ← Procedure.call runner argv none
  if result.ok then return image.fsPath
  Procedure.record
    { recordOf image "format" "error" (formatMessage image result) with tool := some "mkfs.ext4" }
  let status ← Action.ofExcept (decimal result.exitStatus)
  throw (formatFailure image argv result status)

end GuestImage.Allocation
