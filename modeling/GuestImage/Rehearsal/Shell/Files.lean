import GuestImage.Rehearsal.Shell.State

/-!
# Files that a shell opens

A path is looked up from the directory of the shell. Some paths are those of devices: the null
device, and the descriptors that are open already.
-/

namespace GuestImage.Rehearsal.Shell

/-- The null device. -/
def nullDevice : String := "/dev/null"

/-- The text that characters stand for as octets. -/
def textOf (s : String) : String :=
  Utf8.decodeLossy (octetsOf s)

/-- What the paths of descriptors start with. -/
def descriptorDirectory : String := "/dev/fd/"

/-- The descriptor that a path stands for. -/
def descriptorPath? (path : String) : Option Nat :=
  match path with
  | "/dev/stdin" => some 0
  | "/dev/stdout" => some 1
  | "/dev/stderr" => some 2
  | _ =>
    if descriptorDirectory.toList.isPrefixOf path.toList then
      number? (String.ofList (path.toList.drop descriptorDirectory.length))
    else none

namespace Exec

/-- What a path leads to. -/
def target (path : String) (goal : Goal) : Exec (Except Obstacle Target) := do
  let s ← get
  let text := textOf path
  let route := Route.ofText text
  if FileSystem.maxPathSize ≤ text.utf8ByteSize then return .error .nameTooLong
  else if route.isEmpty then return .error .missing
  else return s.world.files.lookup [] s.shell.directory route goal

/-- The entry that a path leads to. -/
def entry (path : String) (goal : Goal) : Exec (Except Obstacle Entry) := do
  return (← target path goal) >>= Target.held

/-- Opens what a path leads to. -/
def openPath (path : String) (use : FileUse) : Exec (Except Obstacle Nat) := do
  match descriptorPath? path with
  | some d =>
    match (← shell).descriptors.lookup d with
    | some n => return .ok n
    | none => return .error .missing
  | none =>
    if path = nullDevice then return .ok (← addOpened .nothing)
    else if descriptorDirectory.toList.isPrefixOf path.toList then return .error .missing
    else
      match ← target path (if use = .read then .object else .newFile) with
      | .error o => return .error o
      | .ok t =>
        let files := (← get).world.files
        let opened (offset : Nat) : Exec (Except Obstacle Nat) := do
          return .ok (← addOpened (.file t.place offset (decide (use = .append))
            (decide (use = .read) || decide (use = .readWrite)) (decide (use ≠ .read))))
        if use = .read then
          match t.held with
          | .error o => return .error o
          | .ok e => if e.permits .read then opened 0 else return .error .denied
        else
          match t.entry with
          | none =>
            if !files.permits t.place.tail .write then return .error .denied
            else
              modifyWorld fun w =>
                { w with files := w.files.insert t.place (.file FileSystem.fileMode .empty) }
              opened 0
          | some (.file mode content) =>
            if !(Entry.file mode content).permits .write then return .error .denied
            else
              if use = .write then
                modifyWorld fun w =>
                  { w with files := w.files.insert t.place (.file mode .empty) }
              opened 0
          | some _ => return .error .isDirectory

end Exec

end GuestImage.Rehearsal.Shell
