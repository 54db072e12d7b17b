import GuestImage.Rehearsal.Shell.Builtin.Basic
import GuestImage.Rehearsal.Shell.Finding
import GuestImage.Rehearsal.Shell.Signal

/-!
# Commands on processes

Signals are sent and dealt with, loops, functions and the shell are left, the directory is changed,
and what a name stands for is told.
-/

namespace GuestImage.Rehearsal.Shell

/-- The event of a number or a name. -/
def event? (s : String) : Option Event :=
  if capitals s = "EXIT" then some 0
  else
    match number? s with
    | some n => if n < 65 then some n else none
    | none => (signal? s).filter fun n => n ≠ 0

/-- The name of an event. -/
def eventName (e : Event) : String :=
  if e = 0 then "EXIT" else signalNames.getD e ""

/-- The signal that the word after a dash tells. -/
def signalOption? (s : String) : Option Nat :=
  match number? s with
  | some n => if n < 65 then some n else none
  | none => signal? s

/-- A path in the shortest form that it has without looking at files, from a directory on. -/
def joinPath (directory path : String) : String :=
  let parts (s : String) : List String := (s.toList.splitOn '/').map String.ofList
  let start := if path.toList.head? = some '/' then [] else parts directory
  let place := (start ++ parts path).foldl (fun (place : List String) part =>
    if part = "" || part = "." then place
    else if part = ".." then place.tail
    else part :: place) []
  "/" ++ "/".intercalate place.reverse

/-- The rights that a mask leaves, by their letters. -/
def maskLetters (mask : Nat) : String :=
  let rights (shift : Nat) : String :=
    let bits := 7 - (mask >>> (3 * shift)) % 8
    (if bits / 4 % 2 = 1 then "r" else "") ++ (if bits / 2 % 2 = 1 then "w" else "") ++
      if bits % 2 = 1 then "x" else ""
  "u=" ++ rights 2 ++ ",g=" ++ rights 1 ++ ",o=" ++ rights 0

/-- An octal number of four digits. -/
def maskDigits (mask : Nat) : String :=
  let digits := Nat.toDigits 8 mask
  String.ofList (List.replicate (4 - digits.length) '0' ++ digits)

/-- What is said of a wrong call of the command that sends signals. -/
def killUsage : String :=
  "Usage: kill [-s sigspec | -signum | -sigspec] [pid | job]... or\nkill -l [exitstatus]"

namespace Exec

/-- Lists the names of signals, or tells the one of a number or of an exit status. -/
def listSignals : List String → Exec Nat
  | [] => do
    say (String.join (signalNames.map (· ++ "\n")))
    return 0
  | w :: _ => do
    let n ← numberArgument w
    let n := if 128 < n then n - 128 else n
    if n = 0 || 64 < n then fail ("invalid signal number or exit status: " ++ w)
    else
      say (signalNames.getD n "" ++ "\n")
      return 0

/-- Sends a signal to processes. -/
def sendAll (signal : Nat) : (status : Nat) → List String → Exec Nat
  | status, [] => return status
  | status, w :: rest => do
    let process ← match w.toList with
      | '-' :: cs => (fun n : Nat => -(n : Int)) <$> numberArgument (String.ofList cs)
      | _ => (fun n : Nat => (n : Int)) <$> numberArgument w
    if process < 0 || !(← send signal process.toNat) then
      complain "No such process\n"
      sendAll signal 1 rest
    else sendAll signal status rest

/-- Sends signals, or lists them. -/
def kill : Builtin := fun words => do
  let (signal, lists, words) ← match words with
    | [] => pure (none, false, [])
    | w :: rest =>
      match w.toList with
      | '-' :: cs =>
        match signalOption? (String.ofList cs) with
        | some n => pure (some n, false, rest)
        | none => do
          let (options, rest) ← readOptions [('l', false), ('s', true)] words
          let mut signal := none
          for (letter, argument) in options do
            if letter = 's' then
              match signalOption? argument with
              | some n => signal := some n
              | none => fail ("invalid signal number or name: " ++ argument)
          pure (signal, options.any (·.1 = 'l'), rest)
      | _ => pure (none, false, words)
  if lists then
    if signal.isSome then fail killUsage else listSignals words
  else if words.isEmpty then fail killUsage
  else sendAll (signal.getD 15) 0 words

/-- Tells what is done on events, or what there is to do on them. -/
def trap : Builtin := fun words => do
  let (_, words) ← readOptions [] words
  let setAll (action : Option String) (words : List String) : Exec Nat := do
    for w in words do
      match event? w with
      | none =>
        let _ ← write 2 (octetsOf ("trap: " ++ w ++ ": bad trap\n"))
        return 1
      | some e =>
        modifyShell fun s =>
          { s with
            traps := (action.toList.map (e, ·)) ++ s.traps.filter (·.1 ≠ e) }
    return 0
  match words with
  | [] =>
    let traps := (← shell).traps.mergeSort fun a b => a.1 ≤ b.1
    say (String.join (traps.map fun (e, action) =>
      "trap -- " ++ singleQuoted action ++ " " ++ eventName e ++ "\n"))
    return 0
  | [e] => setAll none [e]
  | action :: rest =>
    if (number? action).any (· < 65) then setAll none words
    else setAll (if action = "-" then none else some action) rest

/-- Leaves loops, or goes on with the last of them. -/
def leaveLoops (again : Bool) : Builtin := fun words => do
  let n ← match words with
    | [] => pure 1
    | w :: _ => numberArgument w
  if n = 0 then fail "Illegal number: 0"
  else
    let n := min n (← shell).loops
    if n = 0 then return 0
    else
      modifyShell fun s => { s with status := 0 }
      throw (.leaveLoops n again)

/-- Leaves the function, or the script. -/
def leaveFunction : Builtin := fun words => do
  match words with
  | [] => pure ()
  | w :: _ =>
    let n ← numberArgument w
    modifyShell fun s => { s with status := n }
  throw .leaveFunction

/-- Ends the shell. -/
def leaveShell : Builtin := fun words => do
  let status ← match words with
    | [] => do
      let s ← shell
      pure (s.eventStatus.getD s.status)
    | w :: _ => numberArgument w
  modifyShell fun s => { s with status }
  throw .exit

/-- Changes the directory. -/
def cd : Builtin := fun words => do
  let (_, words) ← readOptions [('L', false), ('P', false)] words
  let previous := (← valueOf? "OLDPWD").getD ""
  let wanted ← match words with
    | [] => pure ((← valueOf? "HOME").getD "")
    | "-" :: _ => pure previous
    | w :: _ => pure w
  let s ← shell
  let path := joinPath s.directoryPath wanted
  match ← target path .object with
  | .ok t =>
    match t.entry with
    | some (.directory mode) =>
      if !(Entry.directory mode).permits .search then fail ("can\x27t cd to " ++ wanted)
      else
        modifyShell fun s => { s with directory := t.place, directoryPath := path }
        assign "OLDPWD" s.directoryPath
        assign "PWD" path
        if words.head? = some "-" then say (path ++ "\n")
        return 0
    | _ => fail ("can\x27t cd to " ++ wanted)
  | .error _ => fail ("can\x27t cd to " ++ wanted)

/-- Tells the directory. -/
def pwd : Builtin := fun words => do
  let _ ← readOptions [('L', false), ('P', false)] words
  say ((← shell).directoryPath ++ "\n")
  return 0

/-- Tells or sets the rights that new files do not get. -/
def umask : Builtin := fun words => do
  let (options, words) ← readOptions [('S', false)] words
  match words with
  | [] =>
    let mask := (← shell).mask
    say ((if options.isEmpty then maskDigits mask else maskLetters mask) ++ "\n")
    return 0
  | w :: _ =>
    if w.toList.head?.any Char.isDigit then
      if w.toList.all fun c => '0' ≤ c && c ≤ '7' then
        modifyShell fun s => { s with mask := Nat.ofDigitChars 8 w.toList 0 % 512 }
      else fail ("Illegal number: " ++ w)
    return 0

/-- Tells what names stand for. -/
def type : Builtin := fun words => do
  let mut status := 0
  for w in words do
    let (text, known) ← describe true w
    say text
    if !known then status := 127
  return status

/-- Looks programs up before they are run. -/
def hash : Builtin := fun words => do
  let (_, words) ← readOptions [('r', false)] words
  let mut status := 0
  for w in words do
    if !builtinNames.contains w then
      if let .error _ ← findProgram w then
        complain (w ++ ": not found")
        status := 1
  return status

/-- Tells or sets what is said first in the place of words. -/
def «alias» : Builtin := fun words => do
  let line (name value : String) : String := name ++ "=" ++ singleQuoted value ++ "\n"
  if words.isEmpty then
    say (String.join ((sortedByName (← shell).aliases).map fun (name, value) => line name value))
    return 0
  let mut status := 0
  for w in words do
    match w.toList.dropWhile (· ≠ '=') with
    | _ :: value =>
      let name := String.ofList (w.toList.takeWhile (· ≠ '='))
      modifyShell fun s =>
        { s with aliases := (name, String.ofList value) :: s.aliases.filter (·.1 ≠ name) }
    | [] =>
      match (← shell).aliases.lookup w with
      | some value => say (line w value)
      | none =>
        let _ ← write 2 (octetsOf ("alias: " ++ w ++ " not found\n"))
        status := 1
  return status

/-- Forgets what is said first in the place of words. -/
def unalias : Builtin := fun words => do
  let (options, words) ← readOptions [('a', false)] words
  if !options.isEmpty then
    modifyShell fun s => { s with aliases := [] }
    return 0
  let mut status := 0
  for w in words do
    if ((← shell).aliases.lookup w).isNone then
      let _ ← write 2 (octetsOf ("unalias: " ++ w ++ " not found\n"))
      status := 1
    modifyShell fun s => { s with aliases := s.aliases.filter (·.1 ≠ w) }
  return status

/-- Tells the time that was used, which is none. -/
def times : Builtin := fun _ => do
  say "0m0.000000s 0m0.000000s\n0m0.000000s 0m0.000000s\n"
  return 0

/-- Tells the limits of resources, of which there are none. -/
def ulimit : Builtin := fun words => do
  if words.all fun w => w.toList.head? = some '-' then say "unlimited\n"
  return 0

end Exec

end GuestImage.Rehearsal.Shell
