import GuestImage.FileSystem.Listing
import GuestImage.Rehearsal.Fixture
import GuestImage.Source
import GuestImage.Text.Utf8
import GuestImage.Unpacking

/-!
# Scripted tools

A script says how calls of tools are answered. Each rule is for the calls whose arguments start in
one way, and of several the one that says most of the call answers it. The answers of a rule are
given in order, the last of them from then on for ever. An answer may have read the input, which has
to be text, changed files, and fail.
-/

namespace GuestImage.Rehearsal

/-- How a call is answered. -/
structure Reply where
  exitStatus : Int := 0
  stdout : String := ""
  stderr : String := ""
  /-- What is changed in files, below the directory that the argument of a number names, or else
  below the working directory. A negative number counts from the end. -/
  effects : List Fixture := []
  baseArgument : Option Int := none
  /-- Whether the input is left unread. -/
  skipsInput : Bool := false
  /-- What the call fails with in the end. -/
  failure : Option Failure := none

/-- The replies to calls that start with the given arguments. -/
structure Rule where
  start : List String
  replies : List Reply

/-- Rules, and whether tools are said to be unavailable. -/
structure Script where
  rules : List Rule
  unavailable : Option Failure := none

namespace Script

/-- The rules of tools that report something where nothing else is said. -/
def defaultRules : List Rule :=
  [⟨["losetup", "--find"], [{ stdout := "/dev/loop7\n" }]⟩,
    ⟨["resize2fs", "-P"],
      [{ stdout :=
          "resize2fs 1.47.0 (5-Feb-2023)\nEstimated minimum size of the filesystem: 100000\n" }]⟩]

/-- Rules with one more, which takes the place of one for the same calls. -/
def putRule (rule : Rule) : List Rule → List Rule
  | [] => [rule]
  | r :: rest => if r.start = rule.start then rule :: rest else r :: putRule rule rest

/-- A script with more rules. -/
def addRules (s : Script) (rules : List Rule) : Script :=
  { s with rules := rules.foldl (fun acc r => putRule r acc) s.rules }

/-- The rule that says most of a call. -/
def ruleFor? (s : Script) (argv : List String) : Option Rule :=
  (s.rules.filter (·.start.isPrefixOf argv)).foldl
    (fun best r =>
      match best with
      | none => some r
      | some b => if b.start.length < r.start.length then some r else some b)
    none

/-- The reply to a call, and the script after it. -/
def next (s : Script) (argv : List String) : Reply × Script :=
  match s.ruleFor? argv with
  | none => ({}, s)
  | some rule =>
    match rule.replies with
    | [] => ({}, s)
    | [reply] => (reply, s)
    | reply :: rest => (reply, { s with rules := putRule ⟨rule.start, rest⟩ s.rules })

/-- The directory that the effects of a reply to a call are below. -/
def effectBase (reply : Reply) (argv : List String) : String :=
  match reply.baseArgument with
  | none => "."
  | some n => argv.getD (if n < 0 then argv.length + n else n).toNat ""

/-- Looks through the directory that a call unmounts. -/
def lookThrough (argv : List String) (fs : FileSystem) : Except Failure Unit :=
  if argv.head? = some "umount" then (fs.listingAt (argv.getLastD "")).map fun _ => ()
  else .ok ()

/-- What is read of the input. -/
def readInput (reply : Reply) (stdin : Option ByteStream) :
    Except Failure (Option (List UInt8)) :=
  match stdin with
  | none => .ok none
  | some stream =>
    if reply.skipsInput then .ok none
    else do
      let octets ← stream.readAll
      let _ ← (Utf8.decode octets).mapError fun message => ⟨.undecodable message, []⟩
      return some octets

/-- Answers a call: the input is read, files are changed, and the call fails or ends. -/
def call (argv : List String) (stdin : Option ByteStream) (s : Script × FileSystem) :
    CallOutcome × Script × FileSystem :=
  let (reply, script) := s.1.next argv
  match lookThrough argv s.2 *> readInput reply stdin with
  | .error e => (⟨.error e, none⟩, script, s.2)
  | .ok consumed =>
    let (applied, files) := Fixture.applyAll (effectBase reply argv) reply.effects s.2
    let outcome : Except Failure ToolResult :=
      match applied, reply.failure with
      | .error e, _ => .error e
      | .ok (), some e => .error e
      | .ok (), none => .ok ⟨argv, reply.exitStatus, reply.stdout, reply.stderr⟩
    (⟨outcome, consumed⟩, script, files)

/-- The runner that follows a script. -/
def runner : Runner Script :=
  { run := call
    ensureAvailable := fun _ s =>
      match s.unavailable with
      | none => .ok ()
      | some e => .error e }

end Script

/-- A source in memory, whose steps may be scripted to fail. -/
def memorySource (payload : List UInt8) (openFailure readFailure releaseFailure : Option Failure) :
    Source :=
  { openStream := fun _ =>
      match openFailure, readFailure with
      | some e, _ => .error e
      | none, some e => .ok ⟨[], some e⟩
      | none, none => .ok ⟨[payload], none⟩
    release := fun fs =>
      match releaseFailure with
      | some e => .error e
      | none => .ok fs }

/-- An unpacker that makes entries and then may be scripted to fail. -/
def scriptedUnpacker (entries : List Fixture) (failure : Option Failure) : Unpacker :=
  .steps fun _ target => do
    Fixture.applyAll target.text entries
    match failure with
    | none => return ()
    | some e => throw e

end GuestImage.Rehearsal
