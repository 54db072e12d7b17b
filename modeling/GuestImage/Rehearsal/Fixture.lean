import GuestImage.FileSystem.Operations

/-!
# Fixtures

A fixture puts an entry below a directory, or removes one. Paths are taken as they are written.
Directories that are missing on the way are made; what is there on the way is left as it is, and
whether it leads on shows when the entry is made.
-/

namespace GuestImage.Rehearsal

/-- An entry to be made or removed, by its path below a directory. -/
inductive Fixture where
  | directory (path : String) (mode : Nat)
  /-- A file with a content, cut or filled up with zeros to a size if there is one. -/
  | file (path : String) (octets : List UInt8) (size : Option Nat) (mode : Nat)
  | link (path : String) (target : String)
  | remove (path : String)
  deriving Repr

namespace Fixture

/-- The mode of directories that are made on the way. -/
def outerMode : Nat := 0o755

/-- Sets the mode of what a path leads to. -/
def setMode (path : String) (mode : Nat) : FileAction Unit := do
  let target ← Action.query fun fs => fs.locate path (.ofText path) .object
  Action.ofExcept (target.held.mapError (·.failure [path])) >>= fun
    | .directory _ => modify (·.insert target.place (.directory mode))
    | .file _ content => modify (·.insert target.place (.file mode content))
    | .link _ => return ()

/-- Makes a directory under a mode, whatever the directory it is in passes on. -/
def makeDirectory (path : String) (mode : Nat) : FileAction Unit := do
  Action.change (·.makeDirectoryAt path (.ofText path) FileAction.directoryMode)
  setMode path mode

/-- The texts of the directories that a path goes through, outermost first, when the characters
before the rest of it are given last one first. -/
def outerTexts : (before : List Char) → (rest : List Char) → List String
  | _, [] => []
  | before, c :: rest =>
    if c = '/' && before.head?.any (· ≠ '/') then
      String.ofList before.reverse :: outerTexts (c :: before) rest
    else outerTexts (c :: before) rest

/-- Makes the directories that are missing of some. -/
def makeMissing : List String → FileAction Unit
  | [] => return ()
  | dir :: rest => do
    if !((← get).find dir (.ofText dir) .entry).isOk then makeDirectory dir outerMode
    makeMissing rest

/-- Makes the directories that are missing on the way to an entry. -/
def makeWay (path : String) : FileAction Unit :=
  makeMissing (outerTexts [] path.toList)

/-- Whether a path leads to a directory; it does not where it leads nowhere. -/
def leadsToDirectory (fs : FileSystem) (path : String) : Bool :=
  match fs.find path (.ofText path) .object with
  | .ok e => e.isDirectory
  | .error _ => false

/-- Removes what a path leads to, if there is something, and all below it. -/
def removeEntry (path : String) : FileAction Unit := do
  let route := Route.ofText path
  match (← get).find path route .entry with
  | .error _ => return ()
  | .ok (.directory _) =>
    modify (·.removeTreeAt (fun _ => false) path route)
    if ((← get).find path route .entry).isOk then throw (Obstacle.denied.failure [path])
  | .ok _ => Action.change (·.unlinkAt path route)

/-- Applies a fixture below a directory. -/
def apply (base : String) : Fixture → FileAction Unit
  | .directory path mode => do
    let path := Path.joinText base path
    makeWay path
    if leadsToDirectory (← get) path then setMode path mode else makeDirectory path mode
  | .file path octets size mode => do
    let path := Path.joinText base path
    makeWay path
    let (place, fs) ← Action.query fun fs => fs.createAt path (.ofText path)
    let content : Content := ⟨octets, 0⟩
    let content := match size with
      | none => content
      | some n => content.resize n
    set (fs.insert place (.file mode content))
  | .link path target => do
    let path := Path.joinText base path
    makeWay path
    Action.change (·.makeLinkAt target path (.ofText path))
  | .remove path => removeEntry (Path.joinText base path)

/-- Applies fixtures in order. -/
def applyAll (base : String) : List Fixture → FileAction Unit
  | [] => return ()
  | f :: rest => do
    f.apply base
    applyAll base rest

end Fixture

end GuestImage.Rehearsal
