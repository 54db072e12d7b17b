import GuestImage.Rehearsal.Shell.Condition
import GuestImage.Rehearsal.Shell.Program.Counting
import GuestImage.Rehearsal.Shell.Program.Lines
import GuestImage.Rehearsal.Shell.Program.Showing
import GuestImage.Rehearsal.Shell.Program.Small

/-!
# Programs

The programs that a shell finds, by their names. Those that run others are not among them.
-/

namespace GuestImage.Rehearsal.Shell

namespace Exec

/-- A condition as a program of its own. -/
def testing : Program := fun program words => do
  let name := ((program.toList.splitOn '/').getLast?.map String.ofList).getD program
  let before ← shell
  let closed := name ≠ "[" || words.getLast? = some "]"
  if !closed then
    warn program ("missing " ++ inQuotes "]")
    return 2
  else
    let words := if name = "[" then words.dropLast else words
    match ← attempt (conditionHolds words) with
    | .ok holds => return if holds then 0 else 1
    | .error _ =>
      modifyShell fun s => { s with status := before.status }
      return 2

end Exec

/-- The program of a name. -/
def program? (name : String) : Option Program :=
  match name with
  | "true" => some fun _ _ => return 0
  | "false" => some fun _ _ => return 1
  | "echo" => some Exec.printingArguments
  | "printf" => some Exec.printingFormat
  | "cat" => some Exec.showing
  | "wc" => some Exec.counting
  | "head" => some (Exec.showingPart true)
  | "tail" => some (Exec.showingPart false)
  | "sort" => some Exec.ordering
  | "tee" => some Exec.copying
  | "tr" => some Exec.replacing
  | "seq" => some Exec.countingUp
  | "sleep" => some Exec.pausing
  | "test" | "[" => some Exec.testing
  | _ => none

/-- The names of the programs that run others. -/
def runnerNames : List String :=
  ["sh", "dash", "env"]

/-- The names of all programs. -/
def programNames : List String :=
  ["true", "false", "echo", "printf", "cat", "wc", "head", "tail", "sort", "tee", "tr", "seq",
    "sleep", "test", "["] ++ runnerNames

end GuestImage.Rehearsal.Shell
