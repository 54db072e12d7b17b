import GuestImage.Command.Runner
import GuestImage.Rehearsal.Shell.Interpreter

/-!
# A host with a shell

A host on which small programs can be run, among them a shell. A program is started with nothing to
read and its output captured, or with what it is given to read and its output dropped.
-/

namespace GuestImage.Rehearsal.Shell

/-- The files of the host. -/
def hostFiles : FileSystem :=
  let directories : List Place :=
    [["bin", "usr"], ["sbin", "usr"], ["lib", "usr"], ["local", "usr"], ["bin", "local", "usr"],
      ["sbin", "local", "usr"], ["share", "usr"], ["usr"], ["etc"], ["dev"], ["fd", "dev"],
      ["proc"], ["sys"], ["var"], ["home"], ["root"], ["opt"], ["mnt"], ["media"], ["srv"], ["run"],
      ["boot"]]
  let links : List (Place × Entry) :=
    [(["bin"], .link "usr/bin"), (["sbin"], .link "usr/sbin"), (["lib"], .link "usr/lib"),
      (["sh", "bin", "usr"], .link "dash")]
  let plain : List (Place × Entry) :=
    [(["null", "dev"], .file 0o666 .empty), (["passwd", "etc"], .file 0o644 .empty),
      (["hostname", "etc"], .file 0o644 .empty), (["hosts", "etc"], .file 0o644 .empty)]
  let programs : List (Place × Entry) := (programNames.filter (· ≠ "sh")).map fun name =>
    ([name, "bin", "usr"], .file 0o755 .empty)
  { entries :=
      ([], .directory 0o755) :: (["tmp"], .directory 0o777) ::
      directories.map (·, .directory 0o755) ++ links ++ plain ++ programs
    workDir := [] }

/-- The variables that every program of the host is told of. -/
def hostVariables : List (String × Variable) :=
  [("HOME", { value := some "/root", exported := true }),
    ("LANG", { value := some "C.UTF-8", exported := true }),
    ("PATH",
      { value := some
          "/usr/local/bin:/usr/local/sbin:/usr/local/bin:/usr/sbin:/usr/bin:/sbin:/bin"
        exported := true }),
    ("PWD", { value := some "/", exported := true })]

/-- The number of the process that starts all others. -/
def firstProcess : Nat := 4096

/-- The state in which a program is started, with something to read from. -/
def startState (input : Opened) (output : Opened) : State :=
  { world :=
      { opened := #[input, output, .queue [] true true]
        files := hostFiles
        nextProcess := firstProcess + 1 }
    shell :=
      { bindings := hostVariables
        descriptors := [(0, 0), (1, 1), (2, 2)]
        process := firstProcess } }

/-- How deep commands may be nested, and how often loops may be repeated. -/
def patience : Nat := 1000000

/-- The octets that an argument has to be shorter than, together with the one that ends it. -/
def maxArgumentSize : Nat := 131072

/-- The octets that all arguments and what goes with them may take together. -/
def maxArgumentsSize : Nat := 2097152

/-- The octets that a word takes among the arguments. -/
def argumentSize (word : String) : Nat :=
  word.utf8ByteSize + 1

/-- Whether arguments are too long for any program. -/
def tooLong (words : List String) : Bool :=
  words.any (fun w => maxArgumentSize < argumentSize w) ||
    maxArgumentsSize < words.foldl (fun n w => n + argumentSize w + 8) 1024

/-- The program that a command line starts, by its place, or why it cannot be started. -/
def startable (words : List String) : Exec (Except Failure Place) := do
  let name := words.headD ""
  let refuse (o : Obstacle) : Except Failure Place := .error (o.failure [name])
  if words.any fun w => w.toList.contains '\x00' then
    return .error ⟨.badValue "embedded null byte", []⟩
  else
    match ← Exec.findProgram (spread name) with
    | .error o => return refuse o
    | .ok path =>
      match ← Exec.runnable path with
      | .error o => return refuse o
      | .ok place =>
        if tooLong words then
          return .error ⟨.refusal (.ofNumber 7 "Argument list too long" [name]), []⟩
        else return .ok place

/-- Runs the program of a place with a command line. -/
def runLine (place : Place) (words : List String) : Exec Ending :=
  match words.map spread with
  | [] => return .exited 0
  | name :: arguments =>
    Exec.runAt patience (Exec.run patience) Exec.findProgram 8 place name arguments

/-- The exit status of a program as the one who started it sees it. -/
def Ending.number : Ending → Int
  | .exited status => status
  | .killed signal => -signal

/-- What was written to something opened. -/
def World.written (w : World) (n : Nat) : List UInt8 :=
  match w.opened[n]? with
  | some (.queue octets _ _) => octets
  | _ => []

/-- Runs steps from a state. What they make of it is `none` where they do not end by themselves. -/
def Exec.outcome {α : Type} (act : Exec α) (s : State) : Option α × State :=
  match act s with
  | (.ok a, s') => (some a, s')
  | (.error _, s') => (none, s')

/-- Starts a program, or tells why it cannot be started. -/
def start (words : List String) : Except Failure Place :=
  match Exec.outcome (startable words) (startState .nothing .nothing) with
  | (some r, _) => r
  | (none, _) => .error (Obstacle.missing.failure [words.headD ""])

/-- Runs a program from a state, and tells how it ended, its output and its diagnostics. -/
def finish (place : Place) (words : List String) (s : State) : Int × List UInt8 × List UInt8 :=
  let (ending, s') := Exec.outcome (runLine place words) s
  ((ending.map Ending.number).getD 0, s'.world.written 1, s'.world.written 2)

/-- What is known of the host. Every program is called by its bare name. -/
def facts : HostFacts :=
  { platform := "linux", uid := 0, onPath := fun _ => none, inDirectory := fun _ _ => none }

/-- The host. -/
def host : Host Unit :=
  { facts
    capture := fun words s =>
      match start words with
      | .error e => (.error e, s)
      | .ok place =>
        let (status, output, diagnostics) :=
          finish place words (startState .nothing (.queue [] true true))
        (Captured.ofOctets status output diagnostics, s)
    spawn := fun words s =>
      match start words with
      | .error e => (.error e, s)
      | .ok place =>
        (.ok ⟨some {}, fun received s' =>
          let (status, _, diagnostics) :=
            finish place words (startState (.queue received true false) .nothing)
          (⟨status, diagnostics⟩, s')⟩, s) }

end GuestImage.Rehearsal.Shell
