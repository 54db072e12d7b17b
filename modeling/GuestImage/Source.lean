import GuestImage.Run

/-!
# Sources

A source holds an archive: its stream can be opened and closed, and what is behind it is released in
the end.
-/

namespace GuestImage

/-- Where an archive comes from. -/
structure Source where
  /-- Opens the stream of the archive. -/
  openStream : FileSystem → Except Failure ByteStream
  /-- Releases what is behind the stream. -/
  release : FileSystem → Except Failure FileSystem
  /-- Closes the stream. -/
  closeStream : FileSystem → Except Failure FileSystem := .ok

namespace Source

/-- A stream that nothing is behind. -/
def ofStream (stream : ByteStream) : Source :=
  { openStream := fun _ => .ok stream, release := .ok }

/-- An archive in a file, which the release removes or leaves. -/
def file (path : Path) (remove : Bool) : Source :=
  { openStream := fun fs => (fs.contentAt path).map fun content => ⟨[content.toList], none⟩
    release := fun fs => if remove then fs.unlink path else .ok fs }

end Source

namespace Procedure

variable {σ α : Type}

/-- Runs steps on the stream of a source, which is closed after them however they end. The failure
to close it takes the place of theirs. -/
def withStream (source : Source) (body : ByteStream → Procedure σ α) : Procedure σ α := do
  let stream ← onFiles (Action.query source.openStream)
  note .streamOpened
  let outcome ← Action.attempt (body stream)
  note .streamClosed
  onFiles (Action.change source.closeStream)
  Action.ofExcept outcome

/-- Releases what is behind a source. -/
def releaseSource (source : Source) : Procedure σ Unit := do
  note .sourceReleased
  onFiles (Action.change source.release)

end Procedure

end GuestImage
