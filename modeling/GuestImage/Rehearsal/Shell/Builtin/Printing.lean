import GuestImage.Rehearsal.Shell.Builtin.Basic
import GuestImage.Rehearsal.Shell.Condition
import GuestImage.Rehearsal.Shell.Format

/-!
# Commands that print and test

The shell's own printers, which replace escapes in all they print, and its conditions.
-/

namespace GuestImage.Rehearsal.Shell

/-- Arguments with their escapes replaced and blanks between them, and whether an escape stops what
is printed. -/
def joinUnescaped : List String → List Char × Bool
  | [] => ([], false)
  | w :: rest =>
    let (cs, stops) := shellDialect.unescape (w.length + 1) w.toList
    if stops || rest.isEmpty then (cs, stops)
    else
      let (more, stops) := joinUnescaped rest
      (cs ++ ' ' :: more, stops)

namespace Exec

/-- Prints arguments. -/
def echo : Builtin := fun words => do
  let (ends, words) := if words.head? = some "-n" then (false, words.tail) else (true, words)
  let (cs, stops) := joinUnescaped words
  say (String.ofList cs ++ if ends && !stops then "\n" else "")
  return 0

/-- Prints arguments by a format. -/
def printf : Builtin := fun words => do
  match (← readOptions [] words).2 with
  | [] => fail "usage: printf format [arg ...]"
  | format :: arguments =>
    let p := printFormat shellDialect format arguments
    for complaint in p.complaints do
      complain complaint
    say (String.ofList p.output.reverse)
    return if p.misused then 2 else p.status

/-- Tells whether a condition holds. -/
def test : Builtin := fun words => do
  return if ← conditionHolds words then 0 else 1

/-- Tells whether a condition in brackets holds. -/
def bracket : Builtin := fun words => do
  if (words.getLast?.bind (·.toList.head?)) = some ']' then test words.dropLast
  else fail "missing ]"

end Exec

end GuestImage.Rehearsal.Shell
