import GuestImage.Command.Line
import GuestImage.Command.Pipe
import GuestImage.Text.Lines
import GuestImage.Text.Utf8
import GuestImage.Tool

/-!
# Running commands

Tools are run as commands of a host. Without input, what a command writes is captured as text. With
input, the command is a child that is given the stream through a pipe and waited for in any case;
what it writes to its output is not kept.
-/

namespace GuestImage

/-- How a captured command ended, and what it wrote. -/
structure Captured where
  exitStatus : Int
  stdout : Option String := some ""
  stderr : Option String := some ""
  deriving DecidableEq, Repr

/-- A command that ended with the given octets written: they have to be UTF-8, and their line ends
become line feeds. -/
def Captured.ofOctets (exitStatus : Int) (stdout stderr : List UInt8) :
    Except Failure Captured := do
  let out ← text stdout
  let err ← text stderr
  return ⟨exitStatus, some out, some err⟩
where
  /-- The text of octets. -/
  text (octets : List UInt8) : Except Failure String :=
    match Utf8.decode octets with
    | .ok s => .ok (String.ofList (Text.unifyLineFeeds s.toList))
    | .error message => .error ⟨.undecodable message, []⟩

/-- How a child ended, and what it wrote to its diagnostics. -/
structure Finished where
  exitStatus : Int
  stderr : List UInt8
  deriving DecidableEq, Repr

/-- A child that was started. -/
structure Child (σ : Type) where
  /-- The pipe to the child, if there is one. -/
  pipe : Option Pipe
  /-- How the child ends after it was given octets. -/
  finish : List UInt8 → σ × FileSystem → Finished × σ × FileSystem

/-- What runs commands. -/
structure Host (σ : Type) where
  facts : HostFacts
  /-- Runs a command without input. -/
  capture : List String → σ × FileSystem → Except Failure Captured × σ × FileSystem
  /-- Starts a command that is given input. -/
  spawn : List String → σ × FileSystem → Except Failure (Child σ) × σ × FileSystem

/-- What is known of a child in the end: its pipe, if it had one, and whether it was waited for. -/
structure ChildRecord where
  pipe : Option Pipe
  waited : Bool
  deriving Repr

/-- The state of a host, the command lines that were run on it, and the children among them. -/
structure Session (σ : Type) where
  host : σ
  commands : List (List String) := []
  children : List ChildRecord := []

namespace Host

variable {σ : Type}

/-- The failure to give a child its input. -/
def noPipe (caller : Caller) (argv : List String) : Failure :=
  .ofStage .tool ("No stdin pipe for `" ++ argv.headD "" ++ "`.") none
    [("runner", caller.name), ("tool", argv.headD "")]

/-- Runs a command without input. -/
def runCaptured (host : Host σ) (argv command : List String) :
    Session σ × FileSystem → Except Failure ToolResult × Session σ × FileSystem := fun (s, fs) =>
  let (outcome, state, fs') := host.capture command (s.host, fs)
  (outcome.map fun c => ⟨argv, c.exitStatus, c.stdout.getD "", c.stderr.getD ""⟩,
    { s with host := state, commands := s.commands ++ [command] }, fs')

/-- Gives a child a stream, if it has a pipe, and leaves it with the pipe closed. -/
def feedChild (caller : Caller) (argv : List String) (stream : ByteStream) (pipe : Option Pipe) :
    Except Failure Unit × Option Pipe :=
  match pipe with
  | none => (.error (noPipe caller argv), none)
  | some p =>
    let (fed, p') := Pipe.feed stream.chunks stream.ending p
    (fed, some (Pipe.close p').2)

/-- Runs a command that is given a stream. -/
def runStreaming (host : Host σ) (caller : Caller) (argv command : List String)
    (stream : ByteStream) :
    Session σ × FileSystem → Except Failure ToolResult × Session σ × FileSystem := fun (s, fs) =>
  let (started, state, fs') := host.spawn command (s.host, fs)
  let s' := { s with host := state, commands := s.commands ++ [command] }
  match started with
  | .error e => (.error e, s', fs')
  | .ok child =>
    let (fed, pipe) := feedChild caller argv stream child.pipe
    let received := (pipe.map Pipe.received).getD []
    let (finished, state', fs'') := child.finish received (state, fs')
    (fed.map fun () => ⟨argv, finished.exitStatus, "", Utf8.decodeLossy finished.stderr⟩,
      { s' with host := state', children := s'.children ++ [⟨pipe, true⟩] }, fs'')

/-- Runs the command of a call. -/
def run (host : Host σ) (caller : Caller) (argv : List String) (stdin : Option ByteStream)
    (s : Session σ × FileSystem) : CallOutcome × Session σ × FileSystem :=
  match host.facts.commandLine caller argv with
  | .error e => (⟨.error e, none⟩, s)
  | .ok command =>
    match stdin with
    | none =>
      let (outcome, s') := host.runCaptured argv command s
      (⟨outcome, none⟩, s')
    | some stream =>
      let (outcome, s') := host.runStreaming caller argv command stream s
      (⟨outcome, none⟩, s')

/-- The runner that calls tools as commands of a host. -/
def runner (host : Host σ) (caller : Caller) : Runner (Session σ) :=
  { run := host.run caller
    ensureAvailable := fun tools _ => host.facts.ensureAvailable caller tools }

end Host

end GuestImage
