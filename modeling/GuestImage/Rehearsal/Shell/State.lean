import GuestImage.FileSystem.Operations
import GuestImage.Rehearsal.Shell.Octets
import GuestImage.Rehearsal.Shell.Setting
import GuestImage.Rehearsal.Shell.Syntax

/-!
# The state of a shell

What processes share is a world: what they have opened, and the files. A shell has a state of its
own besides: its parameters, its functions, its descriptors and its traps. A subshell starts with a
copy of that state, and what it changes of it is lost when it ends; what it does to the world stays.

Descriptors lead to what was opened by its number, so that descriptors that were made from one
another share what is left to be read.
-/

namespace GuestImage.Rehearsal.Shell

/-- Something that was opened. -/
inductive Opened where
  /-- The null device. -/
  | nothing
  /-- Octets in a queue, some or no one of whose ends is at hand. -/
  | queue (octets : List UInt8) (readable writable : Bool)
  /-- A file, and where in it the next octet is read or written. -/
  | file (place : Place) (offset : Nat) (appends readable writable : Bool)
  deriving Repr

/-- What processes share. -/
structure World where
  opened : Array Opened
  files : FileSystem
  /-- The texts of the documents of all scripts that were read. -/
  documents : List Word := []
  /-- The number that the next process is known by. -/
  nextProcess : Nat := 2
  /-- The processes that wait for the one which runs. -/
  waiting : List Nat := []
  /-- The signals that were sent to processes which wait for others, the last one first. -/
  sent : List (Nat × Nat) := []

/-- How a process ended. -/
inductive Ending where
  | exited (status : Nat)
  | killed (signal : Nat)
  deriving DecidableEq, Repr

/-- The exit status that a shell makes of the end of another process. -/
def Ending.status : Ending → Nat
  | .exited status => status
  | .killed signal => 128 + signal

/-- A variable, which may be marked before it has a value. -/
structure Variable where
  value : Option String := none
  exported : Bool := false
  readOnly : Bool := false
  deriving DecidableEq, Repr

/-- A signal, or the end of the shell. -/
abbrev Event := Nat

/-- A command that runs beside a shell, and what the shell was when it was started. -/
structure Job where
  process : Nat
  command : Command
  descriptors : List (Nat × Nat)
  bindings : List (String × Variable)
  arguments : List String
  status : Nat

/-- The state of one shell. -/
structure Session where
  name : String := "sh"
  line : Nat := 0
  /-- The command of the shell itself that is run, which complaints name. -/
  running : Option String := none
  bindings : List (String × Variable) := []
  functions : List (String × Command) := []
  arguments : List String := []
  descriptors : List (Nat × Nat) := []
  /-- The settings that are on. -/
  settings : List Setting := []
  /-- The exit status of the last command. -/
  status : Nat := 0
  /-- The exit status of the last script in a word of the current command. -/
  innerStatus : Nat := 0
  /-- What is done on an event; nothing at all where the text is empty. -/
  traps : List (Event × String) := []
  /-- The events that were seen and are still to be dealt with. -/
  pending : List Event := []
  /-- What variables were before the function that is run made them its own. -/
  locals : List (List (String × Option Variable)) := []
  /-- How many loops the current command is in. -/
  loops : Nat := 0
  /-- Where relative paths start. -/
  directory : Place := []
  /-- The path that led there. -/
  directoryPath : String := "/"
  /-- The process that the shell is known as, also in its subshells. -/
  process : Nat := 1
  isSubshell : Bool := false
  /-- The commands that run beside the shell. -/
  jobs : List Job := []
  /-- The last of those that was started. -/
  lastJob : Option Nat := none
  /-- How those ended that have ended. -/
  ended : List (Nat × Ending) := []
  /-- The exit status that an action on an event started with. -/
  eventStatus : Option Nat := none
  /-- The number of the argument that options are read from, and the place of the next one in it. -/
  optionPlace : Nat × Nat := (0, 0)
  /-- Whether a command of the shell itself could not write what it had to say. -/
  unwritten : Bool := false
  /-- What is said first in the place of the words of some commands. -/
  aliases : List (String × String) := []
  /-- The rights that new files do not get. -/
  mask : Nat := 0

/-- A world and a shell in it. -/
structure State where
  world : World
  shell : Session

/-- What keeps the next command from being run. -/
inductive Stop where
  /-- Some loops are left, and the last one of them is gone on with if it is to be run again. -/
  | leaveLoops (levels : Nat) (again : Bool)
  /-- The function is left. -/
  | leaveFunction
  /-- The shell ends. -/
  | exit
  /-- The shell ends, for a command of its own that was misused. -/
  | fault
  /-- The process is ended by a signal. -/
  | killed (signal : Nat)
  deriving DecidableEq, Repr

/-- Variables with one more, which takes the place of one of the same name. -/
def putVariable (name : String) (v : Variable) :
    List (String × Variable) → List (String × Variable)
  | [] => [(name, v)]
  | x :: rest => if x.1 = name then (name, v) :: rest else x :: putVariable name v rest

/-- Steps of a shell. -/
abbrev Exec := ExceptT Stop (StateM State)

namespace Exec

/-- The state of the shell. -/
def shell : Exec Session :=
  return (← get).shell

/-- Changes the state of the shell. -/
def modifyShell (f : Session → Session) : Exec Unit :=
  modify fun s => { s with shell := f s.shell }

/-- Changes the world. -/
def modifyWorld (f : World → World) : Exec Unit :=
  modify fun s => { s with world := f s.world }

/-- Runs steps and says how they ended. -/
def attempt {α : Type} (act : Exec α) : Exec (Except Stop α) := fun s =>
  let (outcome, s') := act s
  (.ok outcome, s')

/-- Runs steps with a state of the shell of their own. -/
def isolated {α : Type} (act : Exec α) : Exec (Except Stop α × Session) := fun s =>
  let (outcome, s') := act s
  (.ok (outcome, s'.shell), { s' with shell := s.shell })

/-- Adds something that is opened, and tells its number. -/
def addOpened (o : Opened) : Exec Nat := do
  let n := (← get).world.opened.size
  modifyWorld fun w => { w with opened := w.opened.push o }
  return n

/-- What a descriptor leads to, by its number. -/
def opened? (descriptor : Nat) : Exec (Option (Nat × Opened)) := do
  let s ← get
  return do
    let n ← s.shell.descriptors.lookup descriptor
    let o ← s.world.opened[n]?
    return (n, o)

/-- Lets a descriptor lead to something that was opened, or to nothing. -/
def setDescriptor (descriptor : Nat) (n : Option Nat) : Exec Unit :=
  modifyShell fun s =>
    let others := s.descriptors.filter (·.1 ≠ descriptor)
    { s with descriptors := n.toList.map (descriptor, ·) ++ others }

/-- Replaces something that was opened. -/
def setOpened (n : Nat) (o : Opened) : Exec Unit :=
  modifyWorld fun w => { w with opened := w.opened.set! n o }

/-- Writes octets to something that was opened, and says whether that could be done. -/
def writeOpened (n : Nat) (octets : List UInt8) : Exec Bool := do
  match (← get).world.opened[n]? with
  | some .nothing => return true
  | some (.queue before readable true) =>
    setOpened n (.queue (before ++ octets) readable true)
    return true
  | some (.file place offset appends readable true) =>
    match (← get).world.files.get? place with
    | some (.file mode content) =>
      let offset := if appends then content.size else offset
      let before := (content.resize offset).toList
      let after := content.toList.drop (offset + octets.length)
      modifyWorld fun w =>
        { w with files := w.files.insert place (.file mode ⟨before ++ octets ++ after, 0⟩) }
      setOpened n (.file place (offset + octets.length) appends readable true)
      return true
    | _ => return false
  | _ => return false

/-- Writes octets to a descriptor, and says whether that could be done. -/
def write (descriptor : Nat) (octets : List UInt8) : Exec Bool := do
  match (← shell).descriptors.lookup descriptor with
  | some n => writeOpened n octets
  | none => return false

/-- The octets that can be read from a descriptor, which stay there, or what is said where there is
nothing to read from. -/
def available (descriptor : Nat) : Exec (Except String (List UInt8)) := do
  match ← opened? descriptor with
  | some (_, .nothing) => return .ok []
  | some (_, .queue octets true _) => return .ok octets
  | some (_, .file place offset _ true _) =>
    match (← get).world.files.get? place with
    | some (.file _ content) => return .ok (content.toList.drop offset)
    | _ => return .error "Is a directory"
  | _ => return .error "Bad file descriptor"

/-- Takes a number of octets that were read from a descriptor. -/
def consume (descriptor count : Nat) : Exec Unit := do
  match ← opened? descriptor with
  | some (n, .queue octets readable writable) =>
    setOpened n (.queue (octets.drop count) readable writable)
  | some (n, .file place offset appends readable writable) =>
    setOpened n (.file place (offset + count) appends readable writable)
  | _ => return ()

/-- Reads all octets from a descriptor. -/
def readAll (descriptor : Nat) : Exec (Except String (List UInt8)) := do
  match ← available descriptor with
  | .error message => return .error message
  | .ok octets =>
    consume descriptor octets.length
    return .ok octets

/-- Complains, and says on which line of the script that is and in which command. -/
def complain (message : String) : Exec Unit := do
  let s ← shell
  let command := match s.running with
    | none => ""
    | some c => c ++ ": "
  let _ ← write 2
    (octetsOf (s.name ++ ": " ++ toString s.line ++ ": " ++ command ++ message ++ "\n"))

/-- Complains and ends the shell, or only the command where that is one of the shell itself which
does not end it. -/
def fail {α : Type} (message : String) : Exec α := do
  complain message
  modifyShell fun s => { s with status := 2 }
  throw .fault

/-- The value of a variable. -/
def valueOf? (name : String) : Exec (Option String) := do
  return ((← shell).bindings.lookup name).bind (·.value)

/-- Changes what is known of a variable. -/
def updateVariable (name : String) (f : Variable → Variable) : Exec Unit :=
  modifyShell fun s =>
    { s with bindings := putVariable name (f ((s.bindings.lookup name).getD {})) s.bindings }

/-- Gives a variable a value, unless it may only be read. -/
def assign (name value : String) : Exec Unit := do
  let s ← shell
  if (s.bindings.lookup name).any (·.readOnly) then fail (name ++ ": is read only")
  else
    updateVariable name fun v =>
      { v with value := some value, exported := v.exported || s.settings.contains .exportAll }

end Exec

end GuestImage.Rehearsal.Shell
