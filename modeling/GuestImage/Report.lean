import GuestImage.Cbor.Item
import GuestImage.Failure.Basic
import GuestImage.Image
import GuestImage.Json.Printer
import GuestImage.Sha256

/-!
# Reports

What a provisioning run reports: the sizes it allocated and came down to, and whether it linked the
name servers. A report is written as JSON on a page of its own or as canonical CBOR, and told from
others by the digest of the latter.
-/

namespace GuestImage

/-- The report of a run. -/
structure Report where
  image : String
  fsPath : Path
  allocatedBytes : Int
  minimum : MinimumSize
  resolvConfLinked : Bool := false
  schemaVersion : Int := 1
  deriving DecidableEq, Repr

namespace Report

/-- The size that an image came down to. -/
def finalBytes (r : Report) : Int :=
  r.minimum.bytes

/-- The members of a report, in a format with integers, texts and truth values. -/
def members {α : Type} (int : Int → α) (text : String → α) (bool : Bool → α) (r : Report) :
    List (String × α) :=
  [("schema_version", int r.schemaVersion), ("image", text r.image),
    ("fs_path", text r.fsPath.text), ("allocated_bytes", int r.allocatedBytes),
    ("min_blocks", int r.minimum.blocks), ("block_size", int r.minimum.blockSize),
    ("final_bytes", int r.finalBytes), ("resolv_conf_linked", bool r.resolvConfLinked)]

/-- A report as JSON. -/
def toJson (r : Report) : Json.Value :=
  .object (r.members .int .text .bool)

/-- A report as CBOR. -/
def toCbor (r : Report) : Cbor.Item :=
  .map (r.members .int .text .bool)

/-- The page of a report, with a line feed at its end. It cannot be written where a number in it
has too many digits. -/
def jsonText (r : Report) : Except Failure String :=
  match Json.encode? (.page 2) r.toJson with
  | some cs => .ok (String.ofList (cs ++ ['\n']))
  | none => .error .tooLongToWrite

/-- The octets of a report. -/
def cborBytes (r : Report) : List UInt8 :=
  Cbor.encode r.toCbor

/-- The digest of a report, in hexadecimal digits. -/
def digest (r : Report) : String :=
  Sha256.hexDigest r.cborBytes

end Report

end GuestImage
