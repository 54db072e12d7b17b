import GuestImage.FileSystem.Operations
import GuestImage.Log
import GuestImage.Text.Utf8

/-!
# The file of a log

A log is written to a file of one JSON object a line, in a directory that is made where it is
missing. Where a record cannot be written, no file is touched.
-/

namespace GuestImage.Log

/-- Writes a log to a file. -/
def writeTo (log : Log) (path : Path) : FileAction Unit := do
  FileAction.makeDirectories path.parent FileAction.directoryMode
  match log.jsonText? with
  | none => throw .tooLongToWrite
  | some text => FileAction.putContent path (Utf8.encode text)

end GuestImage.Log
