import GuestImage.Rehearsal.Shell.Expansion
import GuestImage.Rehearsal.Shell.Files

/-!
# Redirections

What the words of redirections stand for is found before any of them is made, but what a document
stands for only when it is its turn. They are made from left to right, and undone when the command
that they belong to has ended.
-/

namespace GuestImage.Rehearsal.Shell

/-- A redirection whose words were replaced by what they stand for. -/
inductive Redirected where
  | file (descriptor : Nat) (use : FileUse) (path : String)
  | duplicate (descriptor other : Nat)
  | closing (descriptor : Nat)
  | document (descriptor : Nat) (text : Word)

namespace Exec

section

variable (capture : Command → Exec String) (fuel : Nat)

/-- What is said where a file cannot be opened. -/
def openingFault (use : FileUse) (path : String) (o : Obstacle) : String :=
  let absent := if use = .read then "No such file" else "Directory nonexistent"
  let reason := match o with
    | .missing | .notDirectory => absent
    | o => o.message
  (if use = .read then "cannot open " else "cannot create ") ++ path ++ ": " ++ reason

/-- Replaces the words of redirections by what they stand for. -/
def resolve : List Redirection → Exec (List Redirected)
  | [] => return []
  | r :: rest => do
    let resolved ← match r with
      | .file descriptor use name =>
        pure (Redirected.file descriptor use (← textOfWord capture fuel name))
      | .duplicate descriptor other => do
        match (← textOfWord capture fuel other).toList with
        | ['-'] => pure (Redirected.closing descriptor)
        | [c] =>
          if c.isDigit then pure (Redirected.duplicate descriptor (digitOf c))
          else fail "Syntax error: Bad fd number"
        | _ => fail "Syntax error: Bad fd number"
      | .document descriptor number => do
        let w := ((← get).world.documents[number]?).getD []
        pure (Redirected.document descriptor w)
    return resolved :: (← resolve rest)

/-- Makes a redirection, and says whether that could be done. -/
def redirect : Redirected → Exec Bool
  | .closing descriptor => do
    setDescriptor descriptor none
    return true
  | .duplicate descriptor other => do
    match (← shell).descriptors.lookup other with
    | some n =>
      setDescriptor descriptor (some n)
      return true
    | none =>
      complain (toString other ++ ": Bad file descriptor")
      return false
  | .document descriptor text => do
    match ← attempt (partsOf capture fuel text) with
    | .ok parts =>
      let octets := octetsOf (joinParts parts)
      setDescriptor descriptor (some (← addOpened (.queue octets true false)))
      return true
    | .error .fault => return false
    | .error stop => throw stop
  | .file descriptor use path => do
    match ← openPath path use with
    | .ok n =>
      setDescriptor descriptor (some n)
      return true
    | .error o =>
      complain (openingFault use path o)
      return false

/-- Makes redirections up to the first that cannot be made, and says whether there is none. -/
def redirectAll : List Redirected → Exec Bool
  | [] => return true
  | r :: rest => do
    if ← redirect capture fuel r then redirectAll rest else return false

/-- Makes redirections, runs steps, and undoes the redirections, however the steps ended. The steps
are told whether all redirections could be made. -/
def redirecting (rs : List Redirected) (act : Bool → Exec Unit) : Exec Unit := do
  let before := (← shell).descriptors
  let outcome ← attempt (redirectAll capture fuel rs >>= act)
  modifyShell fun s => { s with descriptors := before }
  match outcome with
  | .ok () => return ()
  | .error stop => throw stop

end

end Exec

end GuestImage.Rehearsal.Shell
