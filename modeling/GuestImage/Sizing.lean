import GuestImage.Image
import GuestImage.Settings
import GuestImage.Run

/-!
# Sizes to allocate

The content of an archive takes several times its size once it is unpacked, so the size of the image
file is a multiple of the size its content is said to have, and at least a floor.
-/

namespace GuestImage

/-- How sizes are planned. -/
structure SizePolicy where
  multiplier : Int := 5
  floorBytes : Int := 10 * gibibyte
  deriving DecidableEq, Repr

namespace SizePolicy

/-- The least size in gibibytes where the settings say none. -/
def defaultMinBaseSizeGb : Int := 10

/-- The least size in gibibytes by the settings: the one that is set, if it is within bounds. -/
def floorGbOf (settings : Settings) : Int :=
  (settings.minBaseSizeGb.filter Settings.inRange).getD defaultMinBaseSizeGb

/-- The policy by the settings. -/
def ofSettings (settings : Settings) : SizePolicy :=
  { floorBytes := floorGbOf settings * gibibyte }

/-- The floor in whole gibibytes. -/
def floorGb (policy : SizePolicy) : Int :=
  policy.floorBytes.fdiv gibibyte

/-- The size planned for content of a nominal size. -/
def planned (policy : SizePolicy) (nominal : Int) : Int :=
  max (max nominal 0 * policy.multiplier) policy.floorBytes

end SizePolicy

variable {σ : Type}

/-- Plans the size of an image and logs the floor. -/
def planSize (policy : SizePolicy) (nominal : Int) (image : Option String) : Procedure σ Int := do
  let floorGb ← Action.ofExcept (decimal policy.floorGb)
  Procedure.record
    { operation := "size_plan"
      image
      stage := some "plan"
      message :=
        "Minimum base image size " ++ floorGb ++ " GB (override with " ++
          Settings.minBaseSizeVariable ++ ")."
      extra := some (.object [("floor_bytes", .int policy.floorBytes)]) }
  return policy.planned nominal

end GuestImage
