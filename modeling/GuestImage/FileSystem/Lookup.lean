import GuestImage.Failure.Basic
import GuestImage.FileSystem.Basic

/-!
# Lookups

A lookup follows the steps of a path from a directory. Every place a step is taken from has to be a
directory that may be searched, also for a step that stays or goes up; a link is followed, and what
is looked for says whether one in the last place is. The `top` is the directory that links which
start at the top start from, and that steps up do not leave: the whole file system is looked up with
the outermost place as its top, and a guest looks up its own part of it with the directory of its
image as its top.

Nothing bounds the length of what links lead through but their number: `maxLinks` may be followed.
-/

namespace GuestImage

/-- What may stand in the way of an operation on files. -/
inductive Obstacle where
  | missing
  | denied
  | present
  | notDirectory
  | isDirectory
  | invalid
  | nameTooLong
  | tooManyLinks
  deriving DecidableEq, Repr

namespace Obstacle

/-- The number of the refusal. -/
def number : Obstacle → Int
  | .missing => 2
  | .denied => 13
  | .present => 17
  | .notDirectory => 20
  | .isDirectory => 21
  | .invalid => 22
  | .nameTooLong => 36
  | .tooManyLinks => 40

/-- What the refusal says. -/
def message : Obstacle → String
  | .missing => "No such file or directory"
  | .denied => "Permission denied"
  | .present => "File exists"
  | .notDirectory => "Not a directory"
  | .isDirectory => "Is a directory"
  | .invalid => "Invalid argument"
  | .nameTooLong => "File name too long"
  | .tooManyLinks => "Too many levels of symbolic links"

/-- The refusal of an operation on files of the given names. -/
def failure (o : Obstacle) (names : List String) : Failure :=
  ⟨.refusal (.ofNumber o.number o.message names), []⟩

end Obstacle

/-- What a path leads to: a place in an existing directory, what it holds, and whether the path
asks for a directory by a slash at its end. -/
structure Target where
  place : Place
  entry : Option Entry
  slashed : Bool
  deriving DecidableEq, Repr

namespace Target

/-- The entry of a target, which has to be there, and to be a directory if the path asks for one. -/
def held (t : Target) : Except Obstacle Entry :=
  match t.entry with
  | none => .error .missing
  | some e => if t.slashed && !e.isDirectory then .error .notDirectory else .ok e

end Target

/-- What is looked for at the end of a path. -/
inductive Goal where
  /-- The entry itself. -/
  | entry
  /-- What the entry leads to, if it is a link. -/
  | object
  /-- The place of a file to be made, which a path with a slash at its end cannot be. -/
  | newFile
  deriving DecidableEq, Repr

/-- Whether a link in the last place is followed, by whether a slash comes after it. -/
def Goal.follows (slashed : Bool) : Goal → Bool
  | .entry => slashed
  | .object | .newFile => true

namespace FileSystem

/-- The most links that a lookup follows. -/
def maxLinks : Nat := 40

/-- The most octets of a name. -/
def maxNameSize : Nat := 255

/-- The octets that a path has to be shorter than. -/
def maxPathSize : Nat := 4096

/-- Follows steps from a place up to the first link that is to be followed. That one is left to
`onLink`, which is given the directory of the link, its target, the steps after it, and whether
there is a slash after them. -/
def walk (fs : FileSystem) (top : Place) (goal : Goal)
    (onLink : Place → String → List Step → Bool → Except Obstacle Target) (slashed : Bool) :
    Place → List Step → Except Obstacle Target
  | dir, [] => .ok ⟨dir, fs.get? dir, slashed⟩
  | dir, step :: rest =>
    match fs.get? dir with
    | none => .error .missing
    | some (.directory mode) =>
      if !(Entry.directory mode).permits .search then .error .denied
      else
        match step with
        | .here => walk fs top goal onLink slashed dir rest
        | .up => walk fs top goal onLink slashed (if dir = top then top else dir.tail) rest
        | .name n =>
          if goal = .newFile && slashed && rest.isEmpty then .error .isDirectory
          else if maxNameSize < n.utf8ByteSize then .error .nameTooLong
          else
            match fs.get? (n :: dir) with
            | none => if rest.isEmpty then .ok ⟨n :: dir, none, slashed⟩ else .error .missing
            | some (.link target) =>
              if goal.follows slashed || !rest.isEmpty then onLink dir target rest slashed
              else .ok ⟨n :: dir, some (.link target), slashed⟩
            | some _ => walk fs top goal onLink slashed (n :: dir) rest
    | some _ => .error .notDirectory

/-- Follows steps from a place, and at most the given number of links. -/
def walkLinks (fs : FileSystem) (top : Place) (goal : Goal) :
    Nat → Bool → Place → List Step → Except Obstacle Target
  | 0 => fs.walk top goal fun _ _ _ _ => .error .tooManyLinks
  | links + 1 =>
    fs.walk top goal fun dir target rest slashed =>
      let route := Route.ofText target
      if route.isEmpty then .error .missing
      else
        walkLinks fs top goal links (slashed || rest.isEmpty && route.slashed)
          (if route.fromTop then top else dir) (route.steps ++ rest)

/-- What a route leads to, for one who sees `top` as the top and starts from `dir`. -/
def lookup (fs : FileSystem) (top dir : Place) (route : Route) (goal : Goal) :
    Except Obstacle Target :=
  fs.walkLinks top goal maxLinks route.slashed (if route.fromTop then top else dir)
    route.steps

/-- What the path with a text and a route leads to. Where it leads nowhere, the refusal is about
files of the given names. -/
def locateNamed (fs : FileSystem) (names : List String) (text : String) (route : Route)
    (goal : Goal) : Except Failure Target :=
  if text.toList.contains '\x00' then .error ⟨.badValue "embedded null byte", []⟩
  else if maxPathSize ≤ text.utf8ByteSize then .error (Obstacle.nameTooLong.failure names)
  else (fs.lookup [] fs.workDir route goal).mapError (·.failure names)

/-- What the path with a text and a route leads to. -/
def locate (fs : FileSystem) (text : String) (route : Route) (goal : Goal) :
    Except Failure Target :=
  fs.locateNamed [text] text route goal

/-- The entry that the path with a text and a route leads to. -/
def find (fs : FileSystem) (text : String) (route : Route) (goal : Goal) :
    Except Failure Entry := do
  let target ← fs.locate text route goal
  target.held.mapError (·.failure [text])

/-- The entry that a path leads to. -/
def entryAt (fs : FileSystem) (p : Path) (goal : Goal) : Except Failure Entry :=
  fs.find p.text p.route goal

/-- Whether a path leads to a directory. It does not where it leads nowhere; what else stands in
the way is reported. -/
def isDirectoryAt (fs : FileSystem) (p : Path) : Except Failure Bool :=
  match fs.entryAt p .object with
  | .ok e => .ok e.isDirectory
  | .error e =>
    match e.fault with
    | .badValue _ => .ok false
    | .refusal r =>
      if r.number = some 2 || r.number = some 20 || r.number = some 9 || r.number = some 40 then
        .ok false
      else .error e
    | _ => .error e

/-- Whether there is an entry, maybe a link, where a path leads to. -/
def holds (fs : FileSystem) (p : Path) : Bool :=
  (fs.entryAt p .entry).isOk

end FileSystem

end GuestImage
