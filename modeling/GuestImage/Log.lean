import GuestImage.Json.Printer

/-!
# The log of provisioning runs

A log is a list of records, oldest first, that stages only append to. The start and the end of a
stage are records of their own, by which the log itself answers which stage an image is in
(`currentStage`) and which it has been through (`completedStages`).
-/

namespace GuestImage

/-- A record of the log. -/
structure LogRecord where
  operation : String
  image : Option String
  stage : Option String
  message : String
  tool : Option String := none
  level : String := "info"
  extra : Option Json.Value := none
  deriving Repr

/-- Records, oldest first. -/
abbrev Log := List LogRecord

/-- The operation of the record that a stage starts with. -/
def stageStart : String := "stage_start"

/-- The operation of the record that a stage completes with. -/
def stageComplete : String := "stage_complete"

namespace LogRecord

/-- The members of a record; what is extra is a member only if it was given. -/
def members (r : LogRecord) : List (String × Json.Value) :=
  [("level", .text r.level), ("operation", .text r.operation), ("image", .ofText? r.image),
    ("stage", .ofText? r.stage), ("tool", .ofText? r.tool), ("message", .text r.message)] ++
    match r.extra with
    | none => []
    | some v => [("extra", v)]

/-- A record as a JSON object. -/
def toJson (r : LogRecord) : Json.Value :=
  .object r.members

end LogRecord

namespace Log

/-- The records of an image. -/
def ofImage (log : Log) (image : Option String) : Log :=
  log.filter (·.image = image)

/-- The records of a level. -/
def ofLevel (log : Log) (level : String) : Log :=
  log.filter (·.level = level)

/-- The records of a stage of an image. -/
def ofStage (log : Log) (image stage : Option String) : Log :=
  log.filter fun r => r.image = image && r.stage = stage

/-- The stage that was started last for an image. -/
def currentStage (log : Log) (image : Option String) : Option String :=
  match log.reverse.find? fun r => r.image = image && r.operation = stageStart with
  | none => none
  | some r => r.stage

/-- The stages that were completed for an image, in order. -/
def completedStages (log : Log) (image : Option String) : List (Option String) :=
  (log.filter fun r => r.image = image && r.operation = stageComplete).map (·.stage)

/-- The lines of records, one JSON object each, or nothing where one cannot be written. -/
def jsonLines? : Log → Option (List (List Char))
  | [] => some []
  | r :: rest =>
    match Json.encode? .line r.toJson, jsonLines? rest with
    | some line, some more => some (line :: more)
    | _, _ => none

/-- The file of a log: its lines between line feeds, and one at the end. A log without records is
one empty line. -/
def jsonText? (log : Log) : Option String :=
  (jsonLines? log).map fun ls => String.ofList (['\n'].intercalate ls ++ ['\n'])

theorem currentStage_append_start (log : Log) (r : LogRecord) (h : r.operation = stageStart) :
    currentStage (log ++ [r]) r.image = r.stage := by
  simp [currentStage, h]

theorem completedStages_append (log more : Log) (image : Option String) :
    completedStages (log ++ more) image =
      completedStages log image ++ completedStages more image := by
  simp [completedStages]

end Log

end GuestImage
