import GuestImage.Rehearsal.Shell.Files
import GuestImage.Rehearsal.Shell.Source

/-!
# Finding programs

The name of a program without a slash is looked for in the directories of the search path; a name
with one is a path itself. What is found may still not be fit to be run.
-/

namespace GuestImage.Rehearsal.Shell

/-- The directories of a search path. -/
def pathDirectories (path : String) : List String :=
  (path.toList.splitOn ':').map String.ofList

/-- The path of a name in a directory of the search path. -/
def pathIn (directory name : String) : String :=
  if directory.isEmpty then name else directory ++ "/" ++ name

/-- The commands that a shell does itself. -/
def builtinNames : List String :=
  specialWords ++
    ["[", "alias", "bg", "cd", "chdir", "command", "echo", "false", "fg", "getopts", "hash", "jobs",
      "kill", "printf", "pwd", "read", "test", "true", "type", "ulimit", "umask",
      "unalias", "wait"]

namespace Exec

/-- Looks for a program in directories; what stands in the way in the end is the last obstacle that
is not that nothing is there. -/
def findIn (name : String) : Obstacle → List String → Exec (Except Obstacle String)
  | o, [] => return .error o
  | o, directory :: rest => do
    let path := pathIn directory name
    match ← entry path .object with
    | .error o' =>
      findIn name (if o' = .missing || o' = .notDirectory then o else o') rest
    | .ok (.directory _) => findIn name .denied rest
    | .ok _ => return .ok path

/-- Looks for a program of a name. -/
def findProgram (name : String) : Exec (Except Obstacle String) := do
  if name.toList.contains '/' then return .ok name
  else findIn name .missing (pathDirectories ((← valueOf? "PATH").getD ""))

/-- Says why a program cannot be run. -/
def refusalText : Obstacle → String
  | .missing | .notDirectory => "not found"
  | o => o.message

/-- The place of the program at a path, or why it cannot be run. -/
def runnable (path : String) : Exec (Except Obstacle Place) := do
  match ← target path .object with
  | .error o => return .error o
  | .ok t =>
    match t.held with
    | .error o => return .error o
    | .ok (.file mode content) =>
      if (Entry.file mode content).permits .search then return .ok t.place
      else return .error .denied
    | .ok _ => return .error .denied

/-- The exit status where a program cannot be run. -/
def refusalStatus : Obstacle → Nat
  | .missing | .notDirectory | .nameTooLong | .tooManyLinks => 127
  | _ => 126

/-- Describes what a shell takes a name for, in a sentence or by the word that stands for it, and
says whether it takes it for anything. -/
def describe (inSentence : Bool) (name : String) : Exec (String × Bool) := do
  let said (sentence word : String) : String × Bool :=
    ((if inSentence then name ++ " is " ++ sentence else word) ++ "\n", true)
  let nothing : String × Bool := (if inSentence then name ++ ": not found\n" else "", false)
  let s ← shell
  if keywords.contains name then return said "a shell keyword" name
  else if let some value := s.aliases.lookup name then
    return said ("an alias for " ++ value) ("alias " ++ name ++ "=\x27" ++ value ++ "\x27")
  else if specialWords.contains name then
    return said "a special shell builtin" name
  else if (s.functions.lookup name).isSome then return said "a shell function" name
  else if builtinNames.contains name then return said "a shell builtin" name
  else
    match ← findProgram name with
    | .error _ => return nothing
    | .ok path =>
      match ← entry path .object with
      | .error _ => return nothing
      | .ok _ => return said path path

end Exec

end GuestImage.Rehearsal.Shell
