import GuestImage.Rehearsal.Shell.Builtin.Basic
import GuestImage.Rehearsal.Shell.Expansion

/-!
# Commands on variables and settings

Variables are listed, marked, made a function's own, removed, and given what is read; the arguments
are replaced and shifted, and settings are switched.
-/

namespace GuestImage.Rehearsal.Shell

/-- The name that a word starts with, and the value after it if it assigns one. -/
def splitAssignment (w : String) : String × Option String :=
  match w.toList.dropWhile (· ≠ '=') with
  | [] => (w, none)
  | _ :: value => (String.ofList (w.toList.takeWhile (· ≠ '=')), some (String.ofList value))

/-- A character of a line, and whether it was quoted. -/
abbrev LineChar := Bool × Char

/-- Whether a character is one of the separators. -/
def isSeparator (separators : List Char) (x : LineChar) : Bool :=
  !x.1 && separators.contains x.2

/-- Whether a character is a blank one of the separators. -/
def isBlankSeparator (separators : List Char) (x : LineChar) : Bool :=
  isSeparator separators x && [' ', '\t', '\n'].contains x.2

/-- The text of characters. -/
def lineText (cs : List LineChar) : String :=
  String.ofList (cs.map Prod.snd)

/-- The text of the last variable that a line is read into: all that is left, without blanks at its
end, and without a separator after the only field. -/
def lastField (separators : List Char) (cs : List LineChar) : String :=
  let trim (cs : List LineChar) := (cs.reverse.dropWhile (isBlankSeparator separators)).reverse
  let cs := trim cs
  let field := cs.takeWhile fun x => !isSeparator separators x
  let rest := (cs.drop field.length).dropWhile (isBlankSeparator separators)
  match rest with
  | [x] => if isSeparator separators x then lineText field else lineText cs
  | _ => lineText cs

/-- The texts of a number of variables that a line is read into. -/
def lineFields (separators : List Char) : (count : Nat) → List LineChar → List String
  | 0, _ => []
  | 1, cs => [lastField separators (cs.dropWhile (isBlankSeparator separators))]
  | count + 2, cs =>
    let cs := cs.dropWhile (isBlankSeparator separators)
    let field := cs.takeWhile fun x => !isSeparator separators x
    let rest := (cs.drop field.length).dropWhile (isBlankSeparator separators)
    let rest := match rest with
      | x :: more => if isSeparator separators x then more else rest
      | [] => []
    lineText field :: lineFields separators (count + 1) rest

/-- The first line of a text, whether its end is there, and how many characters it has with that
end. A backslash quotes the next character, and joins lines. -/
def firstLine (raw : Bool) : List Char → List LineChar × Bool × Nat
  | [] => ([], false, 0)
  | '\\' :: c :: rest =>
    if raw then
      if c = '\n' then ([(false, '\\')], true, 2)
      else
        let (cs, ends, n) := firstLine raw (c :: rest)
        ((false, '\\') :: cs, ends, n + 1)
    else
      let (cs, ends, n) := firstLine raw rest
      (if c = '\n' then cs else (true, c) :: cs, ends, n + 2)
  | c :: rest =>
    if c = '\n' then ([], true, 1)
    else
      let (cs, ends, n) := firstLine raw rest
      (if c = '\x00' || c = '\\' && !raw then cs else (false, c) :: cs, ends, n + 1)

namespace Exec

/-- The names of variables that are marked, or of all, with what is said before each of them. -/
def listVariables (word : String) (p : Variable → Bool) : Exec Unit := do
  let lines := (sortedByName (← shell).bindings).filterMap fun (name, v) =>
    if !p v then none
    else
      match v.value with
      | some value => some (word ++ name ++ "=" ++ singleQuoted value ++ "\n")
      | none => if word.isEmpty then none else some (word ++ name ++ "\n")
  say (String.join lines)

/-- The name of a variable that a word starts with, which may give it a value. -/
def variableName (w : String) : Exec String := do
  let name := (splitAssignment w).1
  if isName name then return name else fail (name ++ ": bad variable name")

/-- Gives variables values, and marks them. -/
def mark (word : String) (isMarked : Variable → Bool) (f : Variable → Variable) : Builtin :=
  fun words => do
    let (options, words) ← readOptions [('p', false)] words
    if !options.isEmpty || words.isEmpty then listVariables (word ++ " ") isMarked
    else
      for w in words do
        let name ← variableName w
        if let some value := (splitAssignment w).2 then assign name value
        updateVariable name f
    return 0

/-- Marks variables that programs are told of. -/
def markExported : Builtin :=
  mark "export" (·.exported) fun v => { v with exported := true }

/-- Marks variables that keep their values. -/
def markReadOnly : Builtin :=
  mark "readonly" (·.readOnly) fun v => { v with readOnly := true }

/-- Removes variables, or functions. -/
def unset : Builtin := fun words => do
  let (options, words) ← readOptions [('v', false), ('f', false)] words
  let functions := (options.getLast?.any fun o => o.1 = 'f')
  for w in words do
    if functions then modifyShell fun s => { s with functions := s.functions.filter (·.1 ≠ w) }
    else
      let name ← variableName w
      if ((← shell).bindings.lookup name).any (·.readOnly) then fail (name ++ ": is read only")
      modifyShell fun s => { s with bindings := s.bindings.filter (·.1 ≠ name) }
  return 0

/-- Makes variables the current function's own. -/
def makeLocal : Builtin := fun words => do
  if (← shell).locals.isEmpty then fail "not in a function"
  for w in words do
    let name ← variableName w
    let value := (splitAssignment w).2
    modifyShell fun s =>
      { s with
        locals := match s.locals with
          | frame :: rest =>
            (if frame.any (·.1 = name) then frame
              else (name, s.bindings.lookup name) :: frame) :: rest
          | [] => [] }
    if let some value := value then assign name value
  return 0

/-- Drops the first arguments. -/
def shift : Builtin := fun words => do
  let n ← match words with
    | [] => pure 1
    | w :: _ => numberArgument w
  if (← shell).arguments.length < n then fail "can't shift that many"
  else
    modifyShell fun s => { s with arguments := s.arguments.drop n }
    return 0

/-- Switches the setting of a letter on or off. -/
def switchLetter (value : Bool) (c : Char) : Exec Unit := do
  match Setting.all.find? (·.letter? = some c) with
  | some x => modifyShell fun s => { s with settings := switchSetting x value s.settings }
  | none => fail ("Illegal option -" ++ String.singleton c)

/-- Switches the setting of a name on or off. -/
def switchName (value : Bool) (name : String) : Exec Unit := do
  match Setting.all.find? (·.name = name) with
  | some x => modifyShell fun s => { s with settings := switchSetting x value s.settings }
  | none => fail ("Illegal option -o " ++ name)

/-- Lists settings, as they are or as the words that switch them so. -/
def listSettings (value : Bool) (on : List Setting) : Exec Unit := do
  if value then
    say ("Current option settings\n" ++ String.join (Setting.all.map fun x =>
      x.name ++ String.ofList (List.replicate (16 - x.name.length) ' ') ++
        (if on.contains x then "on" else "off") ++ "\n"))
  else
    say (String.join (Setting.all.map fun x =>
      "set " ++ (if on.contains x then "-" else "+") ++ "o " ++ x.name ++ "\n"))

/-- Switches the settings of letters on or off, and says whether one of the letters asks for a
script, and what is left of the words that the letter `o` takes a name from. A call that asks for a
list of settings is shown all of them. -/
def switchLetters (isCall value : Bool) :
    List Char → (asksScript : Bool) → List String → Exec (List String × Bool)
  | [], asks, rest => return (rest, asks)
  | c :: cs, asks, rest => do
    if isCall && (c = 'c' || c = 'l') then switchLetters isCall value cs (asks || c = 'c') rest
    else if c ≠ 'o' then
      switchLetter value c
      switchLetters isCall value cs asks rest
    else
      match rest with
      | [] =>
        let on := (← shell).settings
        listSettings value (if isCall then Setting.all else on)
        switchLetters isCall value cs asks []
      | name :: rest =>
        switchName value name
        switchLetters isCall value cs asks rest

/-- Reads the settings before other words: what comes after them, whether a word ended them, and
whether one of the letters asks for a script in the next word, which only a call may. -/
def readSettings (isCall : Bool) :
    (fuel : Nat) → (asksScript : Bool) → List String → Exec (List String × Bool × Bool)
  | 0, asks, ws => return (ws, false, asks)
  | _ + 1, asks, [] => return ([], false, asks)
  | fuel + 1, asks, w :: rest => do
    match w.toList with
    | ['-'] =>
      if !isCall then
        switchLetter false 'x'
        switchLetter false 'v'
      return (rest, !rest.isEmpty, asks)
    | ['-', '-'] => return (rest, true, asks)
    | '-' :: cs =>
      let (rest, asks) ← switchLetters isCall true cs asks rest
      readSettings isCall fuel asks rest
    | '+' :: cs =>
      let (rest, asks) ← switchLetters isCall false cs asks rest
      readSettings isCall fuel asks rest
    | _ => return (w :: rest, false, asks)

/-- Switches settings and replaces the arguments, or lists the variables. -/
def setArguments : Builtin := fun words => do
  if words.isEmpty then listVariables "" fun _ => true
  else
    let (rest, ended, _) ← readSettings false (words.length + 1) false words
    if ended || !rest.isEmpty then modifyShell fun s => { s with arguments := rest }
  return 0

/-- Reads a line into variables. -/
def readLine : Builtin := fun words => do
  let (options, names) ← readOptions [('p', true), ('r', false)] words
  if names.isEmpty then fail "arg count"
  else
    let octets := match ← available 0 with
      | .ok octets => octets
      | .error _ => []
    let (line, ends, n) := firstLine (options.any (·.1 = 'r')) (ofOctets octets).toList
    consume 0 n
    for (name, value) in names.zip (lineFields (← separators) names.length line) do
      assign (← variableName name) value
    return if ends then 0 else 1

/-- Reads the next option of arguments. -/
def getopts : Builtin := fun words => do
  match words with
  | allowed :: name :: given =>
    let s ← shell
    let arguments := if given.isEmpty then s.arguments else given
    let index := ((← valueOf? "OPTIND") >>= number?).getD 1
    let index := max index 1
    let place := if s.optionPlace.1 = index then s.optionPlace.2 else 0
    let left (index place : Nat) : List Char := ((arguments[index - 2]?.getD "").toList).drop place
    let current := if place = 0 || index < 2 then [] else left index place
    let start : Option (List Char × Nat) :=
      match current with
      | _ :: _ => some (current, index)
      | [] =>
        match (arguments[index - 1]?.getD "").toList with
        | '-' :: c :: cs => if c = '-' && cs.isEmpty then none else some (c :: cs, index + 1)
        | _ => none
    let finish (letter : String) (index place status : Nat) : Exec Nat := do
      assign "OPTIND" (toString index)
      assign (← variableName name) letter
      modifyShell fun s => { s with optionPlace := (index, place) }
      return status
    match start with
    | none =>
      let ends := arguments[index - 1]? = some "--"
      finish "?" (if ends then index + 1 else index) 0 1
    | some ([], index) => finish "?" index 0 1
    | some (c :: cs, index) =>
      let silent := allowed.toList.head? = some ':'
      let word := arguments[index - 2]?.getD ""
      let place := if cs.isEmpty then 0 else word.length - cs.length
      let noArgument : Exec Unit :=
        modifyShell fun s => { s with bindings := s.bindings.filter (·.1 ≠ "OPTARG") }
      match allowed.toList.dropWhile (· ≠ c) with
      | _ :: ':' :: _ =>
        if c = ':' then finish "?" index place 0
        else if !cs.isEmpty then
          assign "OPTARG" (String.ofList cs)
          finish (String.singleton c) index 0 0
        else
          match arguments[index - 1]? with
          | some argument =>
            assign "OPTARG" argument
            finish (String.singleton c) (index + 1) 0 0
          | none =>
            if silent then
              assign "OPTARG" (String.singleton c)
              finish ":" index 0 0
            else
              let _ ← write 2 (octetsOf ("No arg for -" ++ String.singleton c ++ " option\n"))
              noArgument
              finish "?" index 0 0
      | _ :: _ =>
        assign "OPTARG" ""
        finish (String.singleton c) index place 0
      | [] =>
        if silent then assign "OPTARG" (String.singleton c)
        else
          let _ ← write 2 (octetsOf ("Illegal option -" ++ String.singleton c ++ "\n"))
          noArgument
        finish "?" index place 0
  | _ => fail "Usage: getopts optstring var [arg...]"

end Exec

end GuestImage.Rehearsal.Shell
