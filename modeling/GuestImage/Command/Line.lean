import GuestImage.Failure.Basic
import GuestImage.Settings

/-!
# Command lines

A tool is called by its path, since `sudo` may look for it elsewhere: it is looked for on the
caller's path, then in two directories where tools for file systems lie, and is called by its bare
name if it is in none of them. Whoever is not privileged calls it through `sudo` unless the settings
say otherwise.
-/

namespace GuestImage

/-- Where a host finds tools, and for whom. -/
structure HostFacts where
  /-- The name of the host's platform. -/
  platform : String
  /-- The number of the user. -/
  uid : Int
  /-- The path of a tool, where it is found on the user's path. -/
  onPath : String → Option String
  /-- The path of a tool, where it is found in a directory. -/
  inDirectory : String → String → Option String

/-- Who runs commands: under which name, and how privileges are got. -/
structure Caller where
  name : String := "subprocess"
  privilege : Privilege := .sudo
  deriving DecidableEq, Repr

namespace HostFacts

/-- The directories of tools that may not be on a user's path. -/
def systemDirectories : List String := ["/usr/sbin", "/sbin"]

/-- The path of a tool. -/
def find? (facts : HostFacts) (tool : String) : Option String :=
  facts.onPath tool <|> systemDirectories.findSome? fun dir => facts.inDirectory dir tool

/-- Whether a caller calls tools through `sudo`. -/
def needsSudo (facts : HostFacts) (caller : Caller) : Bool :=
  caller.privilege = .sudo && facts.uid ≠ 0

/-- How a tool is named on a command line: by its path, unless that is not found or empty. -/
def program (facts : HostFacts) (tool : String) : String :=
  match facts.find? tool with
  | none => tool
  | some path => if path.isEmpty then tool else path

/-- The failure to make a command line of nothing. -/
def emptyCommand (caller : Caller) : Failure :=
  .ofStage .tool "Empty command." none [("runner", caller.name)]

/-- The command line of a call. -/
def commandLine (facts : HostFacts) (caller : Caller) (argv : List String) :
    Except Failure (List String) :=
  match argv with
  | [] => .error (emptyCommand caller)
  | tool :: arguments =>
    .ok ((if facts.needsSudo caller then ["sudo"] else []) ++ facts.program tool :: arguments)

/-- A failure of the check whether tools can be called. -/
def unavailable (caller : Caller) (message hint : String) : Failure :=
  .ofStage .tool message (some hint) [("runner", caller.name), ("operation", "prepare")]

/-- Fails unless tools can be called: on the right platform, all of them found, and `sudo` on the
user's path where it is needed. -/
def ensureAvailable (facts : HostFacts) (caller : Caller) (tools : List String) :
    Except Failure Unit :=
  let missing := tools.filter fun tool => (facts.find? tool).isNone
  if !"linux".toList.isPrefixOf facts.platform.toList then
    .error (unavailable caller "Image provisioning requires a Linux host."
      "Loop devices and ext4 tooling are only available on Linux.")
  else if !missing.isEmpty then
    .error (unavailable caller
      ("Required tools not found in PATH: " ++ ", ".intercalate missing ++ ".")
      "Install e2fsprogs, util-linux and tar.")
  else if facts.needsSudo caller && (facts.onPath "sudo").isNone then
    .error (unavailable caller "Running as a regular user requires `sudo` in PATH."
      "Run as root or set privilege='none'.")
  else .ok ()

end HostFacts

end GuestImage
