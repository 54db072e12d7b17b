/-!
# Paths

The text of a path is split at its slashes into steps. A route is a text as the system follows it:
it keeps steps that stay where they are, and the slash at the end that asks for a directory. A path
is a text in normal form: steps that stay are dropped, steps up are kept, since what they lead to
depends on links. Two slashes at the start, and no more, are an anchor of their own.
-/

namespace GuestImage

/-- The texts between slashes. -/
def splitSlash : List Char → List (List Char)
  | [] => [[]]
  | c :: rest =>
    if c = '/' then [] :: splitSlash rest
    else
      match splitSlash rest with
      | [] => [[c]]
      | first :: more => (c :: first) :: more

/-- One step along a path. -/
inductive Step where
  /-- To stay in the directory. -/
  | here
  /-- To the parent directory. -/
  | up
  /-- To the entry of a name. -/
  | name (n : String)
  deriving DecidableEq, Repr

namespace Step

/-- The step that a text between slashes stands for. -/
def ofText (s : String) : Step :=
  if s = "." then .here else if s = ".." then .up else .name s

/-- The text of a step. -/
def text : Step → String
  | .here => "."
  | .up => ".."
  | .name n => n

/-- The steps of a text. -/
def ofPathText (s : String) : List Step :=
  ((splitSlash s.toList).filter (!·.isEmpty)).map fun cs => ofText (String.ofList cs)

end Step

/-- A text as the system follows it. -/
structure Route where
  /-- Whether it starts at the top. -/
  fromTop : Bool
  steps : List Step
  /-- Whether it ends in a slash, and so has to lead to a directory. -/
  slashed : Bool
  deriving DecidableEq, Repr

namespace Route

/-- The route of a text. -/
def ofText (s : String) : Route :=
  ⟨s.toList.head? = some '/', Step.ofPathText s,
    s.toList.getLast? = some '/' && !(Step.ofPathText s).isEmpty⟩

/-- Whether there is nothing to follow at all. -/
def isEmpty (r : Route) : Bool :=
  !r.fromTop && r.steps.isEmpty

end Route

/-- What a path starts at. -/
inductive Anchor where
  | relative
  | top
  /-- The top, written with two slashes. -/
  | doubleTop
  deriving DecidableEq, Repr

/-- The text of an anchor. -/
def Anchor.text : Anchor → String
  | .relative => ""
  | .top => "/"
  | .doubleTop => "//"

/-- The anchor of a text: the slashes it starts with, of which only two are told from one. -/
def Anchor.ofText (s : String) : Anchor :=
  match (s.toList.takeWhile (· = '/')).length with
  | 0 => .relative
  | 2 => .doubleTop
  | _ => .top

/-- A path in normal form. -/
structure Path where
  anchor : Anchor
  steps : List Step
  deriving DecidableEq, Repr

namespace Path

/-- The path of a text. -/
def ofText (s : String) : Path :=
  ⟨.ofText s, (Step.ofPathText s).filter (· ≠ .here)⟩

/-- The text of a path; one without anchor and steps is a dot. -/
def text (p : Path) : String :=
  if p.anchor = .relative && p.steps.isEmpty then "."
  else p.anchor.text ++ "/".intercalate (p.steps.map Step.text)

/-- The path of more steps below a path. -/
def join (p : Path) (steps : List Step) : Path :=
  { p with steps := p.steps ++ steps }

/-- The path of an entry in the directory of a path. -/
def child (p : Path) (name : String) : Path :=
  p.join [.name name]

/-- The path without its last step. -/
def parent (p : Path) : Path :=
  { p with steps := p.steps.dropLast }

/-- The text of a path below a directory, both given by their texts as they are. -/
def joinText (dir path : String) : String :=
  if path.toList.head? = some '/' then path
  else if dir.isEmpty || dir.toList.getLast? = some '/' then dir ++ path
  else dir ++ "/" ++ path

/-- The route that a path is followed by. One without anchor and steps stays in the directory. -/
def route (p : Path) : Route :=
  ⟨p.anchor ≠ .relative,
    if p.anchor = .relative && p.steps.isEmpty then [.here] else p.steps, false⟩

@[simp]
theorem parent_child (p : Path) (name : String) : (p.child name).parent = p := by
  simp [parent, child, join]

theorem join_append (p : Path) (a b : List Step) : (p.join a).join b = p.join (a ++ b) := by
  simp [join]

end Path

end GuestImage
