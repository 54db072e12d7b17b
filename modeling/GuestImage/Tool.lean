import GuestImage.FileSystem.Operations
import GuestImage.Text.Blank
import GuestImage.Text.Occurrence

/-!
# Tools

A tool is called with arguments and maybe a stream of input, and answers with an exit status and
what it wrote. It may change files before it answers. A runner is what calls tools; its state is
its own.
-/

namespace GuestImage

/-- What a tool answered. -/
structure ToolResult where
  argv : List String
  exitStatus : Int
  stdout : String := ""
  stderr : String := ""
  deriving DecidableEq, Repr

/-- The first `limit` items, or for a negative limit all but that many of the last. -/
def takeUpTo {α : Type} (limit : Int) (l : List α) : List α :=
  if limit < 0 then l.take (l.length - limit.natAbs) else l.take limit.toNat

/-- What tools say of a resource that is not there any more, in lower case. -/
def goneMarkers : List String :=
  ["not mounted", "no such device", "no such file or directory", "not found"]

namespace ToolResult

/-- Whether the tool succeeded. -/
def ok (r : ToolResult) : Bool :=
  r.exitStatus = 0

/-- How much of what a tool wrote is shown. -/
def diagnosticsLimit : Int := 2000

/-- The start of what the tool wrote about its failure, up to a limit if there is one, and without
the blank characters around it. -/
def diagnosticsUpTo (r : ToolResult) (limit : Option Int) : String :=
  match limit with
  | none => Text.trim r.stderr
  | some n => String.ofList (takeUpTo n (Text.trim r.stderr).toList)

/-- The start of what the tool wrote about its failure. -/
def diagnostics (r : ToolResult) : String :=
  r.diagnosticsUpTo diagnosticsLimit

/-- Whether the tool says that what it was called for is not there any more. The markers are ASCII
letters, of which no other character is a capital that would complete one. -/
def isGone (r : ToolResult) : Bool :=
  goneMarkers.any fun marker => Text.occursIn marker.toList (Text.lowerAscii r.stderr.toList)

end ToolResult

/-- A stream of octets: the pieces it is read in, and the failure it ends with, if it does not
just end. -/
structure ByteStream where
  chunks : List (List UInt8)
  ending : Option Failure := none
  deriving Repr

namespace ByteStream

/-- All octets of a stream. -/
def octets (s : ByteStream) : List UInt8 :=
  s.chunks.flatten

/-- A stream as it is read: a piece with nothing in it is the end. -/
def asRead (s : ByteStream) : ByteStream :=
  if s.chunks.all (!·.isEmpty) then s else { chunks := s.chunks.takeWhile (!·.isEmpty) }

/-- Reads a stream to its end. -/
def readAll (s : ByteStream) : Except Failure (List UInt8) :=
  match s.asRead.ending with
  | none => .ok s.asRead.octets
  | some e => .error e

end ByteStream

/-- How a call ended, and what was read of the stream if it was read to its end. -/
structure CallOutcome where
  outcome : Except Failure ToolResult
  consumed : Option (List UInt8) := none

/-- What calls tools. -/
structure Runner (σ : Type) where
  /-- Calls a tool, which may change files. -/
  run : List String → Option ByteStream → σ × FileSystem → CallOutcome × σ × FileSystem
  /-- Fails if one of the tools cannot be called. -/
  ensureAvailable : List String → σ → Except Failure Unit
  /-- Whether the tools have left something mounted on a place. -/
  mounted : σ → Place → Bool := fun _ _ => false

/-- The tools that make, mount and resize file systems. -/
def filesystemTools : List String :=
  ["mkfs.ext4", "mount", "umount", "losetup", "e2fsck", "resize2fs"]

/-- The tool that unpacks archives. -/
def unpackingTools : List String := ["tar"]

/-- All tools. -/
def requiredTools : List String :=
  filesystemTools ++ unpackingTools

end GuestImage
