import GuestImage.Image
import GuestImage.NameResolution
import GuestImage.Unpacking

/-!
# Population

An archive is unpacked into an image through a mount on a fresh directory. After it the image is
unmounted in any case, and the directory is removed unless the image is still mounted on it: to
remove it then would be to empty the image.
-/

namespace GuestImage.Population

variable {σ α : Type}

/-- The record of a step on an image. -/
def recordOf (image : Image) (operation level message : String) : LogRecord :=
  { operation, image := some image.uid, stage := some "populate", message, level }

/-- What the names of mountpoints start with. -/
def mountpointStem : String := "basefs-mnt-"

/-- The directory of mountpoints where no other one is given. -/
def temporaryDirectory : Path := ⟨.relative, [.name "tmp"]⟩

/-- How many names are tried. -/
def maxTries : Nat := 10000

/-- The mode of a mountpoint. -/
def mountpointMode : Nat := 0o700

/-- Makes a directory under a name that is not taken, of the names of a counter. -/
def makeFreshDirectory (dir : Path) : Nat → Procedure σ Path
  | 0 => throw ⟨.refusal (.ofNumber 17 "No usable temporary directory name found" []), []⟩
  | tries + 1 => do
    let number := (← get).nextTemporary
    let name := mountpointStem ++ toString number
    modify fun w => { w with nextTemporary := number + 1 }
    let made ← Action.attempt (Procedure.onFiles (Action.change fun fs =>
      fs.makeDirectoryAt (Path.joinText dir.text name) (dir.child name).route mountpointMode))
    match made with
    | .ok () => return dir.child name
    | .error e =>
      match e.fault with
      | .refusal ⟨.present, _, _, _⟩ => makeFreshDirectory dir tries
      | _ => throw e

/-- Makes the directory to mount an image on; a refusal is a failure of the stage. -/
def makeMountpoint (image : Image) (dir : Path) : Procedure σ Path := do
  match ← Action.attempt (makeFreshDirectory dir maxTries) with
  | .ok mountpoint =>
    Procedure.note (.mountpointMade mountpoint)
    return mountpoint
  | .error e =>
    match e.fault with
    | .refusal r =>
      throw (.caused
        (.stage
          { code := .mount
            message := "Failed to create a mountpoint for image " ++ image.uid ++ "."
            context :=
              ⟨[("image", image.uid), ("operation", "mkdtemp"), ("cause", r.text)]⟩ })
        e)
    | _ => throw e

/-- What is said of an image that could not be mounted. -/
def mountMessage (image : Image) : String :=
  "Failed to mount image " ++ image.fsPath.text ++ "."

/-- The failure of the call that mounts. -/
def mountFailure (image : Image) (mountpoint : Path) (result : ToolResult) (status : String) :
    Failure :=
  .ofStage .mount (mountMessage image)
    (some "Loop mounting needs root privileges and the loop module.")
    [("image", image.uid), ("operation", "mount"), ("path", image.fsPath.text),
      ("mountpoint", mountpoint.text), ("returncode", status), ("stderr", result.diagnostics)]

/-- Has an image mounted. -/
def mount (runner : Runner σ) (image : Image) (mountpoint : Path) : Procedure σ Unit := do
  let result ← Procedure.call runner
    ["mount", "-o", "loop", image.fsPath.text, mountpoint.text] none
  if result.ok then return ()
  Procedure.record
    { recordOf image "mount" "error" (mountMessage image) with tool := some "mount" }
  let status ← Action.ofExcept (decimal result.exitStatus)
  throw (mountFailure image mountpoint result status)

/-- The failure of the call that unmounts. -/
def unmountFailure (image : Image) (mountpoint : Path) (result : ToolResult) (status : String) :
    Failure :=
  .ofStage .mount ("Failed to unmount " ++ mountpoint.text ++ ".")
    (some ("Unmount it manually with `umount " ++ mountpoint.text ++ "`."))
    [("image", image.uid), ("operation", "unmount"), ("mountpoint", mountpoint.text),
      ("returncode", status), ("stderr", result.diagnostics)]

/-- Has an image unmounted. One that is not mounted any more is as good. -/
def unmount (runner : Runner σ) (image : Image) (mountpoint : Path) : Procedure σ Unit := do
  let result ← Procedure.call runner ["umount", mountpoint.text] none
  if result.ok || result.isGone then return ()
  let status ← Action.ofExcept (decimal result.exitStatus)
  throw (unmountFailure image mountpoint result status)

/-- Logs a failure to unmount after an earlier one. -/
def recordSuppressed (image : Image) (e : Failure) : Procedure σ Unit :=
  Procedure.record
    { recordOf image "unmount" "warning" ("Unmount failed after an earlier error: " ++ e.text) with
      tool := some "umount" }

/-- Unpacks an archive into a mounted image. A failure of the stage is made to name the image, and
a refusal becomes a failure of the stage. -/
def unpackInto (runner : Runner σ) (unpacker : Unpacker) (image : Image) (source : Source)
    (mountpoint : Path) : Procedure σ Unit := do
  match ← Action.attempt (Unpacker.unpack runner unpacker source mountpoint) with
  | .ok () => return ()
  | .error e =>
    match e.fault with
    | .stage f =>
      Procedure.record (recordOf image "extract" "error" ("Extraction failed: " ++ f.message))
      throw (e.annotate [("image", image.uid)])
    | .refusal r =>
      throw (.caused
        (.stage
          { code := .extraction
            message := "Failed to extract source into image " ++ image.uid ++ "."
            context :=
              ⟨[("image", image.uid), ("operation", "extract"), ("cause", r.text)]⟩ })
        e)
    | _ => throw e

/-- Gives a mounted image its name servers; says whether a link was made. -/
def setUpNameServers (image : Image) (mountpoint : Path) : Procedure σ Bool := do
  match ← Action.attempt (Procedure.onFiles (NameResolution.ensure mountpoint)) with
  | .ok true =>
    Procedure.record
      (recordOf image "resolv_conf" "info"
        ("Linked etc/resolv.conf to " ++ NameResolution.linkText ++ "."))
    return true
  | .ok false => return false
  | .error e =>
    match e.fault with
    | .stage f =>
      Procedure.record
        (recordOf image "resolv_conf" "error" ("resolv.conf setup refused: " ++ f.message))
      throw (e.annotate [("image", image.uid)])
    | .refusal r =>
      Procedure.record
        (recordOf image "resolv_conf" "error" ("resolv.conf setup failed: " ++ r.text))
      throw (.caused
        (.stage
          { code := .resolvSetup
            message := "Failed to set up resolv.conf for image " ++ image.uid ++ "."
            context :=
              ⟨[("image", image.uid), ("operation", "resolv_conf"), ("cause", r.text)]⟩ })
        e)
    | _ => throw e

/-- Lets go of a mountpoint: removes it, or leaves it and says so where it is still mounted. -/
def leaveMountpoint (runner : Runner σ) (image : Image) (mountpoint : Path) (mounted : Bool) :
    Procedure σ Unit :=
  if mounted then
    Procedure.record
      (recordOf image "populate_cleanup" "warning"
        ("Leaving " ++ mountpoint.text ++ " in place; it is still mounted."))
  else do
    Procedure.note (.mountpointRemoved mountpoint)
    modify fun w =>
      { w with files := w.files.removeTree (runner.mounted w.runner) mountpoint }

/-- Steps on an image that is mounted while they last: their outcome, and whether the image is still
mounted after them. -/
def whileMounted (runner : Runner σ) (image : Image) (mountpoint : Path)
    (body : Procedure σ α) : Procedure σ (Except Failure α × Bool) := do
  match ← Action.attempt (mount runner image mountpoint) with
  | .error e => return (.error e, false)
  | .ok () =>
    let settled ←
      (settle (unmount runner image mountpoint) (some (recordSuppressed image)) body :
        StateM (Run σ) (Settled α))
    return (settled.outcome, !settled.released)

/-- Unpacks an archive into an image and gives it its name servers; says whether a link was made.
The mountpoint is made in the directory `dir`. -/
def populate (runner : Runner σ) (unpacker : Unpacker) (dir : Path) (image : Image)
    (source : Source) : Procedure σ Bool := do
  Procedure.record
    (recordOf image "populate" "info" "Copying in files to the image file from a source.")
  let mountpoint ← makeMountpoint image dir
  let (outcome, mounted) ← whileMounted runner image mountpoint do
    unpackInto runner unpacker image source mountpoint
    setUpNameServers image mountpoint
  leaveMountpoint runner image mountpoint mounted
  Action.ofExcept outcome

end GuestImage.Population
