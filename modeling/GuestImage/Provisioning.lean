import GuestImage.Allocation
import GuestImage.Population
import GuestImage.Report
import GuestImage.Shrinking
import GuestImage.Sizing

/-!
# Provisioning

An image is provisioned in four stages: its size is planned, its file made and formatted, the file
populated, and shrunk. The first stage that fails ends the run. Which one it was, and which ones
were completed, is read off the log, to which every stage writes its start and its end.
-/

namespace GuestImage.Provisioning

variable {σ : Type}

/-- The record of the start or the end of a stage. -/
def stageRecord (image : Image) (operation stage message : String) : LogRecord :=
  { operation, image := some image.uid, stage := some stage, message, level := "debug" }

/-- A stage between the records of its start and its end. -/
def stage {α : Type} (image : Image) (name : String) (body : Procedure σ α) : Procedure σ α := do
  Procedure.record (stageRecord image stageStart name (name ++ " start."))
  let result ← body
  Procedure.record (stageRecord image stageComplete name (name ++ " complete."))
  return result

/-- The tools a run calls. -/
def toolsFor (unpacker : Option Unpacker) : List String :=
  match unpacker with
  | none => requiredTools
  | some _ => filesystemTools

/-- The four stages. The image is mounted in the directory `dir`. -/
def stages (runner : Runner σ) (settings : Settings) (unpacker : Unpacker) (image : Image)
    (source : Source) (dir : Path) : Procedure σ Report := do
  let allocated ← stage image "plan"
    (planSize (.ofSettings settings) image.size (some image.uid))
  let _ ← stage image "format" (Allocation.build runner image allocated)
  let linked ← stage image "populate"
    (Population.populate runner unpacker dir image source)
  let minimum ← stage image "shrink" (Shrinking.shrink runner image)
  return ⟨image.uid, image.fsPath, allocated, minimum, linked, 1⟩

/-- The failure of a run whose stage failed, which is made to name the stage the log says it was in,
after the record of the failure. -/
def recordFailure (image : Image) (f : StageFault) (e : Failure) : Procedure σ Failure := do
  let log := (← get).log
  let stage := log.currentStage (some image.uid)
  Procedure.record
    { operation := "provision"
      image := some image.uid
      stage
      message := "Image import failed: " ++ f.message
      level := "error"
      extra := some (.object
        [("code", .text f.code.id),
          ("completed", .list ((log.completedStages (some image.uid)).map .ofText?))]) }
  match stage with
  | none => return e
  | some name => return e.annotate [("stage", name)]

/-- Provisions an image. With `preflight` it is made sure first that the tools can be called. The
directory `dir` is the one that the host has for what is temporary. -/
def provision (runner : Runner σ) (settings : Settings) (unpacker : Option Unpacker)
    (preflight : Bool) (image : Image) (source : Source)
    (dir : Path := Population.temporaryDirectory) : Procedure σ Report := do
  if preflight then Procedure.ensureAvailable runner (toolsFor unpacker)
  match ← Action.attempt (stages runner settings (unpacker.getD (.tar [])) image source dir) with
  | .error e =>
    match e.fault with
    | .stage f => throw (← recordFailure image f e)
    | _ => throw e
  | .ok report =>
    Procedure.record
      { operation := "provision"
        image := some image.uid
        stage := none
        message := "Image filesystem provisioned."
        extra := some (.object
          [("final_bytes", .int report.finalBytes), ("min_blocks", .int report.minimum.blocks)]) }
    return report

end GuestImage.Provisioning
