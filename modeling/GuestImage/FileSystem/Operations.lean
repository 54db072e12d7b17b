import GuestImage.Action
import GuestImage.FileSystem.Lookup

/-!
# Operations on files

Each operation either changes the file system or fails and leaves it as it was, so its type is a
function to the changed file system. `FileAction` composes operations: what was done before a
failure stays done.

What is in a directory is made and removed by the right to write the directory, and a file is read
and written by the rights of its own mode. That there is an entry already is found before the
rights to make it are looked at.
-/

namespace GuestImage

/-- Steps that read and change files and may fail. -/
abbrev FileAction := Action FileSystem

namespace FileSystem

/-- The bit of a directory's mode that directories made in it take over. -/
def groupBit : Nat := 0o2000

/-- The mode of a directory that is made in one of the given entry. -/
def inheritedMode (parent : Option Entry) (mode : Nat) : Nat :=
  match parent with
  | some (.directory m) => mode ||| (m &&& groupBit)
  | _ => mode

/-- Makes a directory where the path with a text and a route leads to. -/
def makeDirectoryAt (fs : FileSystem) (text : String) (route : Route) (mode : Nat) :
    Except Failure FileSystem := do
  let target ← fs.locate text route .entry
  match target.entry with
  | some _ => .error (Obstacle.present.failure [text])
  | none =>
    if !fs.permits target.place.tail .write then .error (Obstacle.denied.failure [text])
    else
      .ok (fs.insert target.place (.directory (inheritedMode (fs.get? target.place.tail) mode)))

/-- Makes a directory. -/
def makeDirectory (fs : FileSystem) (p : Path) (mode : Nat) : Except Failure FileSystem :=
  fs.makeDirectoryAt p.text p.route mode

/-- Removes a link or a file. A path that does not end in a name is one of a directory. -/
def unlinkAt (fs : FileSystem) (text : String) (route : Route) : Except Failure FileSystem := do
  let target ← fs.locate text route .entry
  let named : Bool := match route.steps.getLast? with
    | some (.name _) => true
    | _ => false
  match target.held with
  | .error o => .error (o.failure [text])
  | .ok e =>
    if named && !target.slashed && !fs.permits target.place.tail .write then
      .error (Obstacle.denied.failure [text])
    else if e.isDirectory then .error (Obstacle.isDirectory.failure [text])
    else .ok (fs.erase target.place)

/-- Removes a link or a file. -/
def unlink (fs : FileSystem) (p : Path) : Except Failure FileSystem :=
  fs.unlinkAt p.text p.route

/-- Makes a link to what a text names, which is some text, and shorter than the longest path. A
refusal names what it links to and the link. -/
def makeLinkAt (fs : FileSystem) (goal text : String) (route : Route) :
    Except Failure FileSystem := do
  let names := [goal, text]
  if goal.toList.contains '\x00' || text.toList.contains '\x00' then
    .error ⟨.badValue "embedded null byte", []⟩
  else if goal.isEmpty then .error (Obstacle.missing.failure names)
  else if maxPathSize ≤ goal.utf8ByteSize then .error (Obstacle.nameTooLong.failure names)
  else
    let target ← fs.locateNamed names text route .entry
    match target.entry with
    | some _ => .error (Obstacle.present.failure names)
    | none =>
      if !fs.permits target.place.tail .write then .error (Obstacle.denied.failure names)
      else .ok (fs.insert target.place (.link goal))

/-- Makes a link. -/
def makeLink (fs : FileSystem) (goal : String) (p : Path) : Except Failure FileSystem :=
  fs.makeLinkAt goal p.text p.route

/-- The mode of a file that is made without saying which. -/
def fileMode : Nat := 0o666

/-- The mode of a file once it is written: that it runs as its owner is forgotten, and so is that it
runs as its group if the group may run it. -/
def writtenMode (mode : Nat) : Nat :=
  let dropped := if mode &&& 0o010 = 0 then 0o4000 else 0o6000
  mode - (mode &&& dropped)

/-- Opens a file to be written anew: makes it, or empties it. The place of the file is what is
open. -/
def createAt (fs : FileSystem) (text : String) (route : Route) :
    Except Failure (Place × FileSystem) := do
  let target ← fs.locate text route .newFile
  match target.entry with
  | none =>
    if !fs.permits target.place.tail .write then .error (Obstacle.denied.failure [text])
    else .ok (target.place, fs.insert target.place (.file fileMode .empty))
  | some (.file mode content) =>
    if !(Entry.file mode content).permits .write then .error (Obstacle.denied.failure [text])
    else .ok (target.place, fs.insert target.place (.file (writtenMode mode) .empty))
  | some _ => .error (Obstacle.isDirectory.failure [text])

/-- Opens a file to be written anew. -/
def create (fs : FileSystem) (p : Path) : Except Failure (Place × FileSystem) :=
  fs.createAt p.text p.route

/-- Opens the file that a path leads to for reading, and for writing too if that is asked for: its
place, and its content. A directory is refused, as one that cannot be read where that is so. -/
def openFile (fs : FileSystem) (p : Path) (forWriting : Bool) :
    Except Failure (Place × Content) := do
  let target ← fs.locate p.text p.route .object
  match target.held with
  | .error o => .error (o.failure [p.text])
  | .ok e =>
    if e.isDirectory && forWriting then .error (Obstacle.isDirectory.failure [p.text])
    else if !e.permits .read || forWriting && !e.permits .write then
      .error (Obstacle.denied.failure [p.text])
    else
      match e with
      | .file _ content => .ok (target.place, content)
      | _ => .error (Obstacle.isDirectory.failure [p.text])

/-- The content of the file that a path leads to. -/
def contentAt (fs : FileSystem) (p : Path) : Except Failure Content :=
  (fs.openFile p false).map Prod.snd

/-- Gives the open file at a place a size. The size is a signed number of 64 bits, and not
negative. -/
def resizeFile (fs : FileSystem) (place : Place) (size : Int) : Except Failure FileSystem :=
  if size < -0x8000000000000000 || 0x8000000000000000 ≤ size then
    .error ⟨.overflow "Python int too large to convert to C long", []⟩
  else if size < 0 then .error (Obstacle.invalid.failure [])
  else
    match fs.get? place with
    | some (.file mode content) =>
      .ok (fs.insert place (.file (writtenMode mode) (content.resize size.toNat)))
    | _ => .ok fs

/-- Whether one who goes through a directory and all below it gets into the directory at a place:
each one down to it has to be readable, and each one around it to be searched. -/
def entersFrom (fs : FileSystem) (outermost : Place) : Place → Bool
  | [] => outermost.isEmpty && fs.permits [] .read
  | name :: dir =>
    fs.permits (name :: dir) .read &&
      (name :: dir = outermost || fs.permits dir .search && entersFrom fs outermost dir)

/-- Whether an entry, once nothing is in it, can be removed from the directory it is in. A directory
has to be readable, since it is looked into first. What something is mounted on is busy. -/
def isRemovable (fs : FileSystem) (busy : Place → Bool) (p : Place) (e : Entry) : Bool :=
  !busy p && (!e.isDirectory || e.permits .read) && fs.permits p.tail .write &&
    fs.permits p.tail .search

/-- Whether an entry goes when a directory and all below it are removed as far as that can be
done: it can be got at, and it and all below it can be removed. -/
def goesWith (fs : FileSystem) (busy : Place → Bool) (outermost p : Place) : Bool :=
  outermost.isSuffixOf p && (p = outermost || fs.entersFrom outermost p.tail) &&
    fs.entries.all fun x => !p.isSuffixOf x.1 || fs.isRemovable busy x.1 x.2

/-- Removes the directory that a path leads to, and all below it, as far as that can be done: what
cannot be removed stays, and so do the directories it is in. What is no directory, or is a link to
one, stays. -/
def removeTreeAt (fs : FileSystem) (busy : Place → Bool) (text : String) (route : Route) :
    FileSystem :=
  match fs.locate text route .entry with
  | .ok target =>
    match target.entry with
    | some (.directory _) =>
      { fs with entries := fs.entries.filter fun x => !fs.goesWith busy target.place x.1 }
    | _ => fs
  | .error _ => fs

/-- Removes the directory that a path leads to, and all below it, as far as that can be done. -/
def removeTree (fs : FileSystem) (busy : Place → Bool) (p : Path) : FileSystem :=
  fs.removeTreeAt busy p.text p.route

end FileSystem

namespace FileAction

/-- The mode of a directory that is made without saying which. -/
def directoryMode : Nat := 0o777

/-- Accepts a refusal to make a directory where there is one already. -/
def acceptDirectory (p : Path) (e : Failure) : FileAction Unit := do
  if e.isRefusal then
    if ← Action.query (·.isDirectoryAt p) then return ()
  throw e

/-- Makes the directory of a path given by its steps, the last one first. Where what it is in is
missing, that is made and the directory is tried once more. One that is there already is left as it
is. -/
def makeDirectoriesTo (anchor : Anchor) : List Step → Nat → FileAction Unit
  | steps, mode => do
    let p : Path := ⟨anchor, steps.reverse⟩
    match ← Action.attempt (Action.change (·.makeDirectory p mode)) with
    | .ok () => return ()
    | .error e =>
      if !e.isMissing then acceptDirectory p e
      else
        match steps with
        | [] => throw e
        | _ :: outer =>
          makeDirectoriesTo anchor outer directoryMode
          match ← Action.attempt (Action.change (·.makeDirectory p mode)) with
          | .ok () => return ()
          | .error e' => if e'.isMissing then throw e' else acceptDirectory p e'

/-- Makes a directory and those it is in where they are missing. -/
def makeDirectories (p : Path) (mode : Nat) : FileAction Unit :=
  makeDirectoriesTo p.anchor p.steps.reverse mode

/-- Opens a file to be written anew. -/
def create (p : Path) : FileAction Place := fun fs =>
  match fs.create p with
  | .ok (place, fs') => (.ok place, fs')
  | .error e => (.error e, fs)

/-- Writes a file anew. -/
def putContent (p : Path) (octets : List UInt8) : FileAction Unit := do
  let place ← create p
  modify fun fs =>
    match fs.get? place with
    | some (.file mode _) => fs.insert place (.file mode ⟨octets, 0⟩)
    | _ => fs

end FileAction

end GuestImage
