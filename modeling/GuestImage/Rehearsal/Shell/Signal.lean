import GuestImage.Rehearsal.Shell.State

/-!
# Signals

A signal has a number, mostly a name, and a description of the end it brings about. A shell that was
told what to do on a signal does that instead, once the command it runs has ended.
-/

namespace GuestImage.Rehearsal.Shell

/-- The names of signals, from zero on. -/
def signalNames : List String :=
  ["0", "HUP", "INT", "QUIT", "ILL", "TRAP", "ABRT", "BUS", "FPE", "KILL", "USR1", "SEGV", "USR2",
    "PIPE", "ALRM", "TERM", "16", "CHLD", "CONT", "STOP", "TSTP", "TTIN", "TTOU", "URG", "XCPU",
    "XFSZ", "VTALRM", "PROF", "WINCH", "IO", "PWR", "SYS", "32", "33", "RTMIN"] ++
    (List.range 15).map (fun n => "RTMIN+" ++ toString (n + 1)) ++
    (List.range 14).map (fun n => "RTMAX-" ++ toString (14 - n)) ++ ["RTMAX"]

/-- What is said of a process that a signal ended, where something is said. -/
def endings : List (Nat × String) :=
  [(1, "Hangup"), (3, "Quit"), (4, "Illegal instruction"), (5, "Trace/breakpoint trap"),
    (6, "Aborted"), (7, "Bus error"), (8, "Floating point exception"), (9, "Killed"),
    (10, "User defined signal 1"), (11, "Segmentation fault"), (12, "User defined signal 2"),
    (14, "Alarm clock"), (15, "Terminated"), (16, "Stack fault"), (24, "CPU time limit exceeded"),
    (25, "File size limit exceeded"), (26, "Virtual timer expired"),
    (27, "Profiling timer expired"), (29, "I/O possible"), (30, "Power failure"),
    (31, "Bad system call")] ++
    (List.range 31).map fun n => (n + 34, "Real-time signal " ++ toString n)

/-- Signals that do nothing where nothing is told to be done on them. -/
def harmless : List Nat :=
  [0, 17, 18, 19, 20, 21, 22, 23, 28]

/-- Signals on which nothing can be told to be done. -/
def inexorable : List Nat :=
  [9, 19]

/-- A text in capitals. -/
def capitals (s : String) : String :=
  String.ofList (s.toList.map Char.toUpper)

/-- The signal of a number, or of a name in any case. -/
def signal? (s : String) : Option Nat :=
  match number? s with
  | some n => if n < 65 then some n else none
  | none => (signalNames.idxOf? (capitals s)).filter fun _ => !s.isEmpty

namespace Exec

/-- What a signal does to the shell that is running. -/
def receive (signal : Nat) : Exec Unit := do
  let s ← shell
  match if inexorable.contains signal then none else s.traps.lookup signal with
  | some action =>
    if !action.isEmpty then modifyShell fun s => { s with pending := s.pending ++ [signal] }
  | none => if !harmless.contains signal then throw (.killed signal)

/-- Deals with the signals that were sent to the shell while it waited for another process. -/
def receiveSent : Exec Unit := do
  let s ← get
  if !s.shell.isSubshell then
    let mine := s.world.sent.filter (·.1 = s.shell.process)
    if !mine.isEmpty then
      modifyWorld fun w => { w with sent := w.sent.filter (·.1 ≠ s.shell.process) }
      for x in mine.reverse do
        receive x.2

/-- Sends a signal to a process, and says whether there is such a process. A shell that waits for
the current one gets it when it is done waiting. -/
def send (signal process : Nat) : Exec Bool := do
  let s ← shell
  let waiting := (← get).world.waiting
  if process = s.process && !s.isSubshell then
    receive signal
    return true
  else if process = s.process || waiting.contains process then
    modifyWorld fun w => { w with sent := (process, signal) :: w.sent }
    return true
  else if process = 1 || (s.ended.lookup process).isSome then return true
  else if s.jobs.any (·.process = process) then
    if !harmless.contains signal then
      modifyShell fun s =>
        { s with
          jobs := s.jobs.filter (·.process ≠ process)
          ended := (process, .killed signal) :: s.ended }
    return true
  else return false

end Exec

end GuestImage.Rehearsal.Shell
