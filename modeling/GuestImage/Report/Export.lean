import GuestImage.FileSystem.Operations
import GuestImage.Report

/-!
# The files of a report

A report is written to a file as JSON or as CBOR. Where it cannot be written as JSON, no file is
touched.
-/

namespace GuestImage.Report

/-- Writes a report to a file as JSON. -/
def writeJson (r : Report) (path : Path) : FileAction Unit := do
  let text ← Action.ofExcept r.jsonText
  FileAction.putContent path (Utf8.encode text)

/-- Writes a report to a file as CBOR. -/
def writeCbor (r : Report) (path : Path) : FileAction Unit :=
  FileAction.putContent path r.cborBytes

end GuestImage.Report
