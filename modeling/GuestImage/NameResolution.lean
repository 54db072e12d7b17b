import GuestImage.FileSystem.Operations

/-!
# The name servers of a guest

The kernel of a guest publishes the name servers it was given in a file of its own, and
`etc/resolv.conf` in the image is made a link to that file unless the image has one that is not
empty (`ensure`).

The directory to hold the link is found inside the image the way the guest will see it (`resolve`):
links are followed step by step, and one that starts at the top starts at the root of the image. A
step up from the root is refused before anything is changed. What does not exist yet is kept as it
is named, so that it can be made. `resolution` also tells how many steps were taken.
-/

namespace GuestImage.NameResolution

/-- What the link in an image says. -/
def linkText : String := "../proc/net/pnp"

/-- The directory of the link. -/
def directory : Path := ⟨.relative, [.name "etc"]⟩

/-- The name of the link. -/
def fileName : String := "resolv.conf"

/-- The mode of the directory where it has to be made. -/
def directoryMode : Nat := 0o755

/-- The most links that are followed. -/
def maxLinks : Nat := 40

/-- The fault of a path with a step up from the root. -/
def outside (relative : Path) : Failure :=
  .ofStage .resolvSetup (relative.text ++ " resolves outside the image root.") none
    [("operation", "resolv_conf"), ("path", relative.text)]

/-- Where names, the last one first, lead to below a root. -/
def below (root : Path) (names : List String) : Path :=
  root.join (names.reverse.map .name)

/-- How the resolution of a path ended, and how many steps it took. -/
structure Resolution where
  steps : Nat
  outcome : Except Failure Path
  deriving Repr

/-- A resolution with one more step before it. -/
def Resolution.afterStep (r : Resolution) : Resolution :=
  { r with steps := r.steps + 1 }

/-- Follows steps below a root up to the first link, which is left to `onLink` with the names that
lead to its directory, its name, its target, and the steps after it. The names so far come last one
first, and `missing` says that one of them does not exist, so that nothing after it is looked up. -/
def resolveSteps (fs : FileSystem) (root relative : Path)
    (onLink : List String → String → String → List Step → Resolution) :
    Bool → List String → List Step → Resolution
  | _, names, [] => ⟨0, .ok (below root names)⟩
  | missing, names, .here :: rest =>
    (resolveSteps fs root relative onLink missing names rest).afterStep
  | missing, names, .up :: rest =>
    match names with
    | [] => ⟨1, .error (outside relative)⟩
    | _ :: outer => (resolveSteps fs root relative onLink missing outer rest).afterStep
  | true, names, .name n :: rest =>
    (resolveSteps fs root relative onLink true (n :: names) rest).afterStep
  | false, names, .name n :: rest =>
    match fs.entryAt (below root (n :: names)) .entry with
    | .ok (.link target) => (onLink names n target rest).afterStep
    | .ok _ => (resolveSteps fs root relative onLink false (n :: names) rest).afterStep
    | .error e =>
      if e.isMissing then
        (resolveSteps fs root relative onLink true (n :: names) rest).afterStep
      else ⟨1, .error e⟩

/-- Follows steps below a root, and at most the given number of links. -/
def resolveLinks (fs : FileSystem) (root relative : Path) :
    Nat → List String → List Step → Resolution
  | 0 =>
    resolveSteps fs root relative
      (fun names n _ _ =>
        ⟨0, .error (Obstacle.tooManyLinks.failure [(below root (n :: names)).text])⟩)
      false
  | links + 1 =>
    resolveSteps fs root relative
      (fun names _ target rest =>
        let path := Path.ofText target
        resolveLinks fs root relative links (if path.anchor = .relative then names else [])
          (path.steps ++ rest))
      false

/-- The resolution of a path inside the image under a root. -/
def resolution (fs : FileSystem) (root relative : Path) : Resolution :=
  resolveLinks fs root relative maxLinks [] relative.steps

/-- The path outside the image of a path inside it. What exists of it holds no link. -/
def resolve (fs : FileSystem) (root relative : Path) : Except Failure Path :=
  (resolution fs root relative).outcome

/-- Whether a path inside the image leads to a file that is not empty. It does not where it leads
nowhere or outside. -/
def isNonEmptyFile (fs : FileSystem) (root relative : Path) : Except Failure Bool :=
  match resolve fs root relative >>= fun p => fs.entryAt p .entry with
  | .ok e => .ok e.isNonEmptyFile
  | .error e =>
    match e.fault with
    | .refusal _ => .ok false
    | .stage f => if f.code = .resolvSetup then .ok false else .error e
    | _ => .error e

/-- Makes sure that the image under a root has name servers; says whether the link was made. -/
def ensure (root : Path) : FileAction Bool := do
  let dir ← Action.query (resolve · root directory)
  if ← Action.query (isNonEmptyFile · root (directory.child fileName)) then return false
  FileAction.makeDirectories dir directoryMode
  let file := dir.child fileName
  if (← get).holds file then Action.change (·.unlink file)
  Action.change (·.makeLink linkText file)
  return true

end GuestImage.NameResolution
