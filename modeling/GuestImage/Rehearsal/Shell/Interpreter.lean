import GuestImage.Rehearsal.Shell.Builtin.Printing
import GuestImage.Rehearsal.Shell.Builtin.Process
import GuestImage.Rehearsal.Shell.Builtin.Variables
import GuestImage.Rehearsal.Shell.Grammar
import GuestImage.Rehearsal.Shell.Program
import GuestImage.Rehearsal.Shell.Redirecting

/-!
# Running commands

Commands are run by what they are made of. The number that bounds how deep they are nested, and how
often a loop is repeated, is far beyond what a script that ends in time needs.

The stages of a pipeline are run one after the other, each of them to its end, and a command that
runs beside the shell is run when the shell waits or ends.
-/

namespace GuestImage.Rehearsal.Shell

/-- Under what circumstances a command is run. -/
structure Mode where
  /-- Whether something depends on its failure, which then does not end the shell. -/
  tested : Bool := false
  /-- Whether the process ends with it, so that a program takes the place of the shell. -/
  isLast : Bool := false
  deriving DecidableEq, Repr

/-- The commands of the shell itself that run no others. -/
def plainBuiltin? (name : String) : Option Builtin :=
  match name with
  | ":" | "true" => some fun _ => return 0
  | "false" => some fun _ => return 1
  | "echo" => some Exec.echo
  | "printf" => some Exec.printf
  | "test" => some Exec.test
  | "[" => some Exec.bracket
  | "export" => some Exec.markExported
  | "readonly" => some Exec.markReadOnly
  | "unset" => some Exec.unset
  | "local" => some Exec.makeLocal
  | "shift" => some Exec.shift
  | "set" => some Exec.setArguments
  | "read" => some Exec.readLine
  | "getopts" => some Exec.getopts
  | "kill" => some Exec.kill
  | "trap" => some Exec.trap
  | "break" => some (Exec.leaveLoops false)
  | "continue" => some (Exec.leaveLoops true)
  | "return" => some Exec.leaveFunction
  | "exit" => some Exec.leaveShell
  | "cd" | "chdir" => some Exec.cd
  | "pwd" => some Exec.pwd
  | "umask" => some Exec.umask
  | "type" => some Exec.type
  | "hash" => some Exec.hash
  | "alias" => some Exec.«alias»
  | "unalias" => some Exec.unalias
  | "times" => some Exec.times
  | "ulimit" => some Exec.ulimit
  | "jobs" => some fun _ => return 0
  | "bg" | "fg" => some fun _ => Exec.fail "No current job"
  | _ => none

/-- What a simple command does. -/
inductive Action where
  /-- It has no words. -/
  | nothing
  | builtin (name : String) (isSpecial : Bool) (arguments : List String)
  | function (body : Command) (arguments : List String)
  | program (name : String) (arguments : List String)

/-- The action of words, after those that only say that a command of the shell itself is meant. -/
def actionOf (functions : List (String × Command)) (words : List String) : Action :=
  let plain := words.dropWhile (· = "command")
  match words, plain with
  | [], _ => .nothing
  | "command" :: arguments, [] => .builtin "command" false arguments.tail
  | "command" :: _, name :: arguments =>
    if name.toList.head? = some '-' then
      if name = "-p" || name = "--" then
        match arguments with
        | [] => .builtin "command" false []
        | name :: arguments =>
          if builtinNames.contains name then .builtin name false arguments
          else .program name arguments
      else .builtin "command" false plain
    else if builtinNames.contains name then .builtin name false arguments
    else .program name arguments
  | name :: arguments, _ =>
    if specialWords.contains name then .builtin name true arguments
    else
      match functions.lookup name with
      | some body => .function body arguments
      | none =>
        if builtinNames.contains name then .builtin name false arguments
        else .program name arguments

/-- Whether words are those of a command whose arguments may assign. -/
def declares (words : List String) : Bool :=
  match words.dropWhile (· = "command") with
  | name :: _ => ["export", "readonly", "local", "alias"].contains name
  | [] => false

/-- The program of a place, by its name. -/
def programOf? : Place → Option String
  | [name, "bin", "usr"] => if programNames.contains name then some name else none
  | _ => none

namespace Exec

/-- Runs steps and gives variables back the values they had before. -/
def restoring (names : List String) (act : Exec Unit) : Exec Unit := do
  let before := (← shell).bindings
  let outcome ← attempt act
  for name in names.eraseDups do
    modifyShell fun s =>
      let others := s.bindings.filter (·.1 ≠ name)
      { s with bindings := (before.lookup name).toList.map (name, ·) ++ others }
  match outcome with
  | .ok () => return ()
  | .error stop => throw stop

/-- Says how a process ended that a signal ended. -/
def tellEnding (e : Ending) : Exec Unit := do
  match e with
  | .exited _ => return ()
  | .killed signal =>
    if let some text := endings.lookup signal then
      let _ ← write 2 (octetsOf (text ++ "\n"))

/-- Sets the exit status of the last command. -/
def setStatus (n : Nat) : Exec Unit :=
  modifyShell fun s => { s with status := n }

/-- Whether anything is told to be done on any event. -/
def hasTraps : Exec Bool := do
  return (← shell).traps.any (!·.2.isEmpty)

section

variable (fuel : Nat) (self : Mode → Command → Exec Unit)

/-- Runs the lines of a script and tells the exit status of the last one. The script may be one
that is shown while it is read. -/
def runLines (mode : Mode) (shown : Bool) : (rounds : Nat) → (status : Nat) → Source → Exec Nat
  | 0, status, _ => return status
  | rounds + 1, status, source => do
    let line := nextLine { source with documents := (← get).world.documents }
    if shown && (← shell).settings.contains .showScript then
      let left := match line with
        | .ok (_, after) => after.rest.length
        | .error _ => 0
      let text := source.rest.take (source.rest.length - left)
      let _ ← write 2 (octetsOf (String.ofList text))
    match line with
    | .error e =>
      modifyShell fun s => { s with line := e.line }
      fail ("Syntax error: " ++ e.message)
    | .ok (none, _) => return status
    | .ok (some line, source) =>
      modifyWorld fun w => { w with documents := source.documents }
      match line.command with
      | .nothing => runLines mode shown rounds status source
      | command =>
        self { mode with isLast := mode.isLast && line.isLast } command
        runLines mode shown rounds (← shell).status source

/-- Runs a script and tells the exit status of its last line. -/
def runText (mode : Mode) (text : String) : Exec Nat :=
  runLines self mode false (text.length + 2) 0 { rest := text.toList }

/-- Runs a script that comes from a file and tells the exit status of its last line. -/
def runFileText (text : String) : Exec Nat :=
  runLines self {} true (text.length + 2) 0 { rest := text.toList }

/-- Does what is to be done on the events that were seen. -/
def settle : Exec Unit := do
  let before ← shell
  if !before.pending.isEmpty then
    modifyShell fun s => { s with pending := [] }
    for e in before.pending do
      let action := ((← shell).traps.lookup e).getD ""
      if !action.isEmpty then
        let status := (← shell).status
        modifyShell fun s => { s with eventStatus := some (before.eventStatus.getD status) }
        let _ ← runText self {} action
        modifyShell fun s => { s with status, eventStatus := before.eventStatus }

/-- Does what is to be done at the end of the shell, and tells how it ended. -/
def exitAction : Exec Ending := do
  let before ← shell
  let action := (before.traps.lookup 0).getD ""
  if action.isEmpty then return .exited (before.status % 256)
  else
    modifyShell fun s =>
      { s with
        traps := s.traps.filter (·.1 ≠ 0)
        eventStatus := some s.status
        loops := 0 }
    match ← attempt (runText self {} action) with
    | .error (.killed signal) => return .killed signal
    | .error .exit | .error .fault => return .exited ((← shell).status % 256)
    | _ => return .exited (before.status % 256)

/-- Runs a process with a state of its own to its end, together with what runs beside it. -/
def runProcess (runJobs : Exec Unit) (body : Exec Unit) : Exec Ending := do
  let ending ← match ← attempt body with
    | .error (.killed signal) => pure (Ending.killed signal)
    | _ => exitAction self
  runJobs
  return ending

/-- Runs steps in a process that starts as a copy of the shell. -/
def inCopy (body : Exec Unit) (runJobs : Exec Unit) : Exec Ending := do
  let (outcome, _) ← isolated do
    modifyShell fun s =>
      { s with
        isSubshell := true
        traps := s.traps.filter (·.2.isEmpty)
        pending := []
        jobs := []
        ended := [] }
    runProcess self runJobs body
  match outcome with
  | .ok ending => return ending
  | .error _ => return .exited 2

/-- Runs a command that was to run beside the shell. It reads nothing. -/
def runJob (runJobs : Exec Unit) (job : Job) : Exec Ending := do
  let nothing ← addOpened .nothing
  inCopy self (do
    modifyShell fun s =>
      { s with
        descriptors := (0, nothing) :: job.descriptors.filter (·.1 ≠ 0)
        bindings := job.bindings
        arguments := job.arguments
        status := job.status }
    self { isLast := true } job.command) runJobs

/-- Runs the commands that were to run beside the shell, those that they start themselves
included. -/
def runJobs : (rounds : Nat) → Exec Unit
  | 0 => return ()
  | rounds + 1 => do
    match (← shell).jobs with
    | [] => return ()
    | job :: rest =>
      modifyShell fun s => { s with jobs := rest }
      let ending ← runJob self (runJobs rounds) job
      modifyShell fun s => { s with ended := (job.process, ending) :: s.ended }
      receiveSent
      runJobs rounds

/-- Runs steps in a subshell and tells how that ended. -/
def inSubshell (body : Exec Unit) : Exec Ending := do
  let ending ← inCopy self body (runJobs self fuel)
  receiveSent
  return ending

/-- What a script writes, without the ends of lines after it. -/
def capture (command : Command) : Exec String := do
  let n ← addOpened (.queue [] true true)
  let ending ← match command with
    | .nothing => pure (Ending.exited 0)
    | command => inSubshell fuel self do
      setDescriptor 1 (some n)
      self { isLast := true } command
  tellEnding ending
  modifyShell fun s => { s with innerStatus := ending.status }
  match (← get).world.opened[n]? with
  | some (.queue octets _ _) =>
    let cs := (ofOctets octets).toList.filter (· ≠ '\x00')
    return String.ofList (cs.reverse.dropWhile (· = '\n')).reverse
  | _ => return ""

/-- The fields of the words of a simple command, after those found so far. -/
def commandFields : List String → List Word → Exec (List String)
  | fields, [] => return fields
  | fields, w :: rest => do
    let more ← match if declares fields then assignment? w else none with
      | some (name, value) =>
        pure [name ++ "=" ++ (← valueOfWord (capture fuel self) fuel value)]
      | none => fieldsOfWords (capture fuel self) fuel [w]
    commandFields (fields ++ more) rest

/-- Makes assignments from left to right, each after its own value is found, and tells what was
assigned. -/
def assignAll (exported : Bool) : List (String × Word) → Exec (List String)
  | [] => return []
  | (name, w) :: rest => do
    let value ← valueOfWord (capture fuel self) fuel w
    assign name value
    if exported then updateVariable name fun v => { v with exported := true }
    return (name ++ "=" ++ value) :: (← assignAll exported rest)

/-- Shows a command before it is run. -/
def showCommand (output : Option Nat) (words : List String) : Exec Unit := do
  let s ← shell
  if s.settings.contains .showCommands then
    if let some n := output then
      let sign := ((s.bindings.lookup "PS4").bind (·.value)).getD ""
      let source : Source := { rest := sign.toList, documents := (← get).world.documents }
      modifyShell fun s => { s with settings := switchSetting .showCommands false s.settings }
      let shown ← match (readWord (fun _ => return .nothing) .document).run source with
        | (.ok w, _) => textOfWord (capture fuel self) fuel w
        | (.error _, _) => pure sign
      modifyShell fun s => { s with settings := switchSetting .showCommands true s.settings }
      let _ ← writeOpened n (octetsOf (shown ++ " ".intercalate words ++ "\n"))

/-- How many functions may be run within one another. -/
def maxFunctionDepth : Nat := 1000

/-- Runs a function. -/
def callFunction (mode : Mode) (body : Command) (arguments : List String) : Exec Unit := do
  let before ← shell
  if maxFunctionDepth ≤ before.locals.length then
    fail s!"Maximum function recursion depth ({maxFunctionDepth}) reached"
  modifyShell fun s =>
    { s with arguments, loops := 0, locals := [] :: s.locals, optionPlace := (0, 0) }
  let outcome ← attempt (self { tested := mode.tested } body)
  modifyShell fun s =>
    let bindings := (s.locals.headD []).foldl (fun (l : List (String × Variable)) x =>
      x.2.toList.map (x.1, ·) ++ l.filter (·.1 ≠ x.1)) s.bindings
    { s with
      bindings
      arguments := before.arguments
      loops := before.loops
      locals := before.locals
      optionPlace := before.optionPlace }
  match outcome with
  | .ok () | .error .leaveFunction => return ()
  | .error stop => throw stop

/-- Runs a shell as a program of its own, with what its words ask for. -/
def runShell : Program := fun name words => do
  modifyShell fun s => { s with name, line := 0 }
  let (rest, _, asksScript) ← readSettings true (words.length + 1) false words
  let text (n : Nat) : Exec String := do
    match ← octetsFrom n with
    | .ok octets => return ofOctets octets
    | .error _ => return ""
  let fromInput : Exec Nat := do
    modifyShell fun s => { s with settings := switchSetting .fromInput true s.settings }
    match ← readAll 0 with
    | .ok octets => runFileText self (ofOctets octets)
    | .error _ => return 0
  let after (words : List String) : Exec Unit :=
    modifyShell fun s => { s with name := words.headD name, arguments := words.tail }
  match asksScript, rest with
  | true, [] => fail "-c requires an argument"
  | true, script :: rest =>
    after rest
    let status ← runText self {} script
    setStatus status
    if (← shell).settings.contains .fromInput then fromInput else return status
  | false, [] => fromInput
  | false, file :: rest =>
    if (← shell).settings.contains .fromInput then
      modifyShell fun s => { s with arguments := file :: rest }
      fromInput
    else
      match ← openPath file .read with
      | .error o => fail (openingFault .read file o)
      | .ok n =>
        after (file :: rest)
        runFileText self (← text n)

/-- Runs a process that shares nothing with the shell but what is open, and what is handed on. -/
def inProcess (body : Exec Nat) : Exec Ending := do
  let before ← shell
  let process := (← get).world.nextProcess
  modifyWorld fun w =>
    { w with nextProcess := process + 1, waiting := before.process :: w.waiting }
  let handedOn := before.bindings.filter fun x =>
    x.2.exported && x.2.value.isSome && x.1 ≠ "IFS"
  let (outcome, _) ← isolated do
    modifyShell fun _ =>
      { bindings :=
          [("PPID", { value := some (toString before.process) }),
            ("OPTIND", { value := some "1" }), ("IFS", { value := some " \t\n" })] ++
          (handedOn.map fun x => (x.1, { x.2 with readOnly := false })) ++
          [("PS1", { value := some "# " }), ("PS2", { value := some "> " }),
            ("PS4", { value := some "+ " })]
        descriptors := before.descriptors
        traps := before.traps.filter (·.2.isEmpty)
        directory := before.directory
        directoryPath := before.directoryPath
        process
        mask := before.mask }
    runProcess self (runJobs self fuel) (do setStatus (← body))
  modifyWorld fun w => { w with waiting := w.waiting.drop 1 }
  receiveSent
  match outcome with
  | .ok ending => return ending
  | .error _ => return .exited 2

/-- Runs the program at a path in a process of its own, which is told what name it was called by. -/
def runAt (find : String → Exec (Except Obstacle String)) :
    (depth : Nat) → (place : Place) → (name : String) → List String → Exec Ending
  | 0, _, _, _ => return .exited 126
  | depth + 1, place, name, words => do
    match programOf? place with
    | some "sh" | some "dash" => inProcess fuel self (runShell self name words)
    | some "env" =>
      let before ← shell
      let isEmpty := words.head? = some "-i" || words.head? = some "-"
      let words := if isEmpty then words.tail else words
      let assigned := words.takeWhile (·.toList.contains '=')
      match words.drop assigned.length with
      | [] => return .exited 0
      | command :: arguments =>
        let path ← find command
        let found ← match path with
          | .ok path => runnable path
          | .error o => pure (.error o)
        match found with
        | .ok place =>
          if isEmpty then modifyShell fun s => { s with bindings := [] }
          for w in assigned do
            let (key, value) := splitAssignment w
            updateVariable key fun _ => { value, exported := true }
          let ending ← runAt find depth place command arguments
          modifyShell fun s => { s with bindings := before.bindings }
          return ending
        | .error o =>
          warn name (inQuotes command ++ ": " ++ o.message)
          return .exited (refusalStatus o)
    | some program =>
      match program? program with
      | some p => inProcess fuel self (p name words)
      | none => return .exited 126
    | none => return .exited 126

/-- Runs a program that words name. -/
def runProgram (mode : Mode) (replaces : Bool) (name : String) (arguments : List String) :
    Exec Unit := do
  match ← findProgram name with
  | .error o =>
    complain (name ++ ": " ++ refusalText o)
    setStatus 127
  | .ok path =>
    match ← runnable path with
    | .error o =>
      complain (name ++ ": " ++ refusalText o)
      setStatus (refusalStatus o)
    | .ok place =>
      if programOf? place = some "sleep" then runJobs self fuel
      let ending ← runAt fuel self findProgram 8 place name arguments
      match ending with
      | .killed signal =>
        if replaces || mode.isLast && !(← hasTraps) then throw (.killed signal)
        else tellEnding ending
      | _ => pure ()
      setStatus ending.status

/-- Waits for what runs beside the shell. -/
def wait : Builtin := fun words => do
  let mut status := 0
  for w in words do
    let process ← numberArgument w
    let known := (← shell).jobs.any (·.process = process)
    if known then runJobs self fuel
    match (← shell).ended.lookup process with
    | some ending =>
      tellEnding ending
      status := ending.status
    | none => status := 127
  if words.isEmpty then runJobs self fuel
  return status

/-- The path of a script that is run in the shell itself. -/
def scriptPath (name : String) : Exec String := do
  if name.toList.contains '/' then return name
  else
    let directories := pathDirectories ((← valueOf? "PATH").getD "")
    let paths ← directories.filterMapM fun directory => do
      let path := pathIn directory name
      match ← entry path .object with
      | .ok (.file _ _) => return some path
      | _ => return none
    match paths with
    | path :: _ => return path
    | [] => fail (name ++ ": not found")

/-- Runs a script in the shell itself. -/
def runScript : Builtin := fun words => do
  match (← readOptions [] words).2 with
  | [] => return 0
  | name :: _ =>
    let path ← scriptPath name
    match ← openPath path .read with
    | .error o => fail (openingFault .read path o)
    | .ok n =>
      let text ← match ← octetsFrom n with
        | .ok octets => pure (ofOctets octets)
        | .error _ => pure ""
      modifyShell fun s => { s with running := some path }
      match ← attempt (runFileText self text) with
      | .ok status => return status
      | .error .leaveFunction => return (← shell).status
      | .error stop => throw stop

/-- Tells what a command is, or runs nothing. -/
def command : Builtin := fun words => do
  let (options, words) ← readOptions [('p', false), ('v', false), ('V', false)] words
  match words with
  | [] => return 0
  | w :: _ =>
    let (text, known) ← describe (options.getLast?.any fun o => o.1 = 'V') w
    say text
    return if known then 0 else 127

/-- The command of the shell itself of a name. -/
def builtin? (mode : Mode) (name : String) : Option Builtin :=
  match name with
  | "eval" => some fun words =>
    if words.isEmpty then return 0
    else runText self { tested := mode.tested } (" ".intercalate words)
  | "." => some (runScript self)
  | "wait" => some (wait fuel self)
  | "command" => some command
  | "exec" => some fun words => do
    match words with
    | [] => return 0
    | name :: arguments =>
      runProgram fuel self mode true name arguments
      modifyShell fun s =>
        if s.status = 126 || s.status = 127 then s else { s with traps := [] }
      throw .exit
  | name => plainBuiltin? name

/-- Runs a command of the shell itself. A misuse ends the shell only if it is a special one. -/
def runBuiltin (mode : Mode) (name : String) (isSpecial : Bool) (arguments : List String) :
    Exec Unit := do
  let before ← shell
  modifyShell fun s => { s with running := some name, unwritten := false }
  let outcome ← attempt (((builtin? fuel self mode name).getD fun _ => return 0) arguments)
  let failed := (← shell).unwritten
  if failed then complain (name ++ ": I/O error")
  modifyShell fun s => { s with running := before.running, unwritten := before.unwritten }
  match outcome with
  | .ok status => setStatus (if failed && status % 2 = 0 then status + 1 else status)
  | .error .fault => if isSpecial then throw .fault
  | .error stop => throw stop

/-- Runs a simple command. -/
def runSimple (mode : Mode) (line : Nat) (assignments : List (String × Word)) (words : List Word)
    (redirections : List Redirection) : Exec Unit := do
  modifyShell fun s => { s with line, innerStatus := 0 }
  let fields ← commandFields fuel self [] words
  let action := actionOf (← shell).functions fields
  let diagnostics := (← shell).descriptors.lookup 2
  let resolved ← resolve (capture fuel self) fuel redirections
  let isSpecial := match action with
    | .builtin _ isSpecial _ => isSpecial
    | _ => false
  let body (redirected : Bool) : Exec Unit := do
    if !redirected then
      setStatus 2
      if isSpecial then throw .fault
    else
      let isLasting := isSpecial || (match action with
        | .nothing => true
        | _ => false)
      let isExec := match action with
        | .builtin "exec" _ arguments => !arguments.isEmpty
        | _ => false
      let inner : Exec Unit := do
        let assigned ← assignAll fuel self (!isLasting || isExec) assignments
        showCommand fuel self diagnostics (assigned ++ fields)
        match action with
        | .nothing => setStatus (← shell).innerStatus
        | .builtin name isSpecial arguments => runBuiltin fuel self mode name isSpecial arguments
        | .function body arguments => callFunction self mode body arguments
        | .program name arguments => runProgram fuel self mode false name arguments
      if isLasting then inner else restoring (assignments.map Prod.fst) inner
  match action with
  | .builtin "exec" _ [] => redirectAll (capture fuel self) fuel resolved >>= body
  | _ => redirecting (capture fuel self) fuel resolved body

/-- Runs the stages of a pipeline, each with what the one before wrote. -/
def runStages (mode : Mode) : (input : Option Nat) → List Command → Exec Unit
  | _, [] => receiveSent
  | input, stage :: rest => do
    let output ← if rest.isEmpty then pure none
      else some <$> addOpened (.queue [] true true)
    let ending ← inCopy self (do
      if let some n := input then setDescriptor 0 (some n)
      if let some n := output then setDescriptor 1 (some n)
      self { tested := mode.tested, isLast := true } stage) (runJobs self fuel)
    tellEnding ending
    if rest.isEmpty then setStatus ending.status
    runStages mode output rest

/-- What comes after a part of a loop. -/
inductive LoopStep where
  | again
  | leave

/-- Runs a part of a loop, and says what comes after it. -/
def inLoop (act : Exec Unit) : Exec LoopStep := do
  match ← attempt act with
  | .ok () => return .again
  | .error (.leaveLoops levels again) =>
    if levels ≤ 1 then return if again then .again else .leave
    else
      modifyShell fun s => { s with loops := s.loops - 1 }
      throw (.leaveLoops (levels - 1) again)
  | .error stop => throw stop

/-- Runs a loop that lasts while its test ends in the given way. -/
def runLoop (mode : Mode) (success : Bool) (test body : Command) :
    (rounds : Nat) → (status : Nat) → Exec Nat
  | 0, status => return status
  | rounds + 1, status => do
    match ← inLoop (self { tested := true } test) with
    | .leave => return status
    | .again =>
      if decide ((← shell).status = 0) ≠ success then return status
      else
        match ← inLoop (self { tested := mode.tested } body) with
        | .leave => return (← shell).status
        | .again => runLoop mode success test body rounds (← shell).status

/-- Runs a loop over values of a variable. -/
def runEach (mode : Mode) (name : String) (body : Command) :
    List String → (status : Nat) → Exec Nat
  | [], status => return status
  | value :: rest, _ => do
    assign name value
    match ← inLoop (self { tested := mode.tested } body) with
    | .leave => return (← shell).status
    | .again => runEach mode name body rest (← shell).status

/-- Runs steps as a loop. -/
def asLoop (act : Exec Nat) : Exec Unit := do
  modifyShell fun s => { s with loops := s.loops + 1 }
  let status ← act
  modifyShell fun s => { s with loops := s.loops - 1, status }

/-- The command of the first case one of whose patterns matches a text. -/
def chosen (s : String) : List (List Word × Command) → Exec (Option Command)
  | [] => return none
  | (patterns, command) :: rest => do
    match ← patterns.findM? fun w => do
      return matchesPattern (← patternOfWord (capture fuel self) fuel w) s.toList with
    | some _ => return some command
    | none => chosen s rest

/-- Runs a command by what it is made of, and says whether its failure ends a shell that ends on
failures. -/
def runParts (mode : Mode) : Command → Exec Bool
  | .nothing => return false
  | .simple line assignments words redirections => do
    runSimple fuel self mode line assignments words redirections
    return true
  | .pipeline stages => do
    runStages fuel self mode none stages
    return true
  | .negation body => do
    self { tested := true } body
    setStatus (if (← shell).status = 0 then 1 else 0)
    return false
  | .both first second => do
    self { tested := true } first
    if (← shell).status = 0 then self mode second
    return false
  | .either first second => do
    self { tested := true } first
    if (← shell).status ≠ 0 then self mode second
    return false
  | .sequence first second => do
    self { tested := mode.tested } first
    self mode second
    return false
  | .background body => do
    let process := (← get).world.nextProcess
    modifyWorld fun w => { w with nextProcess := process + 1 }
    modifyShell fun s =>
      { s with
        jobs := s.jobs ++
          [{ process, command := body, descriptors := s.descriptors, bindings := s.bindings,
             arguments := s.arguments, status := s.status }]
        lastJob := some process
        status := 0 }
    return false
  | .subshell line body redirections => do
    modifyShell fun s => { s with line }
    let resolved ← resolve (capture fuel self) fuel redirections
    let inner (mode : Mode) : Exec Unit := do
      if ← redirectAll (capture fuel self) fuel resolved then self { mode with isLast := true } body
      else
        setStatus 2
        throw .fault
    if mode.isLast && !(← hasTraps) then inner mode
    else
      let ending ← inSubshell fuel self (inner mode)
      tellEnding ending
      setStatus ending.status
    return true
  | .redirected line body redirections => do
    modifyShell fun s => { s with line }
    let resolved ← resolve (capture fuel self) fuel redirections
    redirecting (capture fuel self) fuel resolved fun redirected =>
      if redirected then self { tested := mode.tested } body else setStatus 2
    return true
  | .conditional test yes no => do
    self { tested := true } test
    if (← shell).status = 0 then self mode yes
    else
      match no with
      | .nothing => setStatus 0
      | no => self mode no
    return false
  | .loop success test body => do
    asLoop (runLoop self mode success test body fuel 0)
    return false
  | .each line name words body => do
    modifyShell fun s => { s with line }
    let values ← match words with
      | none => do pure (← shell).arguments
      | some words => fieldsOfWords (capture fuel self) fuel words
    asLoop (runEach self mode name body values 0)
    return false
  | .choice line subject cases => do
    modifyShell fun s => { s with line }
    let s ← textOfWord (capture fuel self) fuel subject
    match ← chosen fuel self s cases with
    | none | some .nothing => setStatus 0
    | some command => self mode command
    return false
  | .define _ name body => do
    modifyShell fun s =>
      { s with functions := (name, body) :: s.functions.filter (·.1 ≠ name), status := 0 }
    return false

end

/-- Runs a command. -/
def run : (fuel : Nat) → Mode → Command → Exec Unit
  | 0, _, _ => fail "too deeply nested"
  | fuel + 1, mode, command => do
    if !(← shell).settings.contains .onlyRead then
      settle (run fuel)
      let counts ← runParts fuel (run fuel) mode command
      settle (run fuel)
      let s ← shell
      if counts && !mode.tested && s.settings.contains .exitOnFailure && s.status ≠ 0 then
        throw .exit

end Exec

end GuestImage.Rehearsal.Shell
