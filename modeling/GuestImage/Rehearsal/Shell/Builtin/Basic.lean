import GuestImage.Rehearsal.Shell.State

/-!
# Commands of the shell itself

What the commands that a shell does itself have in common: they read options and numbers, they say
something, and a misuse of them is a failure of the shell.
-/

namespace GuestImage.Rehearsal.Shell

/-- What a command of the shell itself does with its arguments, and its exit status. -/
abbrev Builtin := List String → Exec Nat

/-- A text in quotes, so that a shell reads it as one word: single quotes between double ones, and
all else between single ones. -/
def singleQuoted (s : String) : String :=
  let runs := s.toList.splitBy fun a b => (a = '\x27') = (b = '\x27')
  let shown (run : List Char) : String :=
    let quote := if run.head? = some '\x27' then "\"" else "\x27"
    quote ++ String.ofList run ++ quote
  (if s.toList.head?.all (· = '\x27') then "\x27\x27" else "") ++ String.join (runs.map shown)

/-- Names in the order they are listed in. -/
def sortedByName {α : Type} (l : List (String × α)) : List (String × α) :=
  l.mergeSort fun a b => a.1 ≤ b.1

namespace Exec

/-- Says something on the standard output. -/
def say (text : String) : Exec Unit := do
  if !text.isEmpty then
    if !(← write 1 (octetsOf text)) then modifyShell fun s => { s with unwritten := true }

/-- The number that an argument has to be. -/
def numberArgument (s : String) : Exec Nat := do
  match decimal? s with
  | some n =>
    if 0 ≤ n && n < 0x80000000 then return n.toNat else fail ("Illegal number: " ++ s)
  | none => fail ("Illegal number: " ++ s)

/-- Reads letters after a dash that have to be options, some of them with an argument. -/
def optionLetters (allowed : List (Char × Bool)) :
    List Char → List String → Exec (List (Char × String) × List String)
  | [], rest => return ([], rest)
  | c :: cs, rest => do
    match allowed.lookup c with
    | none => fail ("Illegal option -" ++ String.singleton c)
    | some false =>
      let (options, rest) ← optionLetters allowed cs rest
      return ((c, "") :: options, rest)
    | some true =>
      match cs, rest with
      | [], [] => fail ("No arg for -" ++ String.singleton c ++ " option")
      | [], argument :: rest => return ([(c, argument)], rest)
      | cs, rest => return ([(c, String.ofList cs)], rest)

/-- Reads the options before other words. -/
def optionWords (allowed : List (Char × Bool)) :
    (fuel : Nat) → List String → Exec (List (Char × String) × List String)
  | 0, ws => return ([], ws)
  | _ + 1, [] => return ([], [])
  | fuel + 1, w :: rest => do
    match w.toList with
    | ['-', '-'] => return ([], rest)
    | '-' :: c :: cs =>
      let (options, rest) ← optionLetters allowed (c :: cs) rest
      let (more, rest) ← optionWords allowed fuel rest
      return (options ++ more, rest)
    | _ => return ([], w :: rest)

/-- The options and the other words of a command of the shell itself. -/
def readOptions (allowed : List (Char × Bool)) (words : List String) :
    Exec (List (Char × String) × List String) :=
  optionWords allowed (words.length + 1) words

end Exec

end GuestImage.Rehearsal.Shell
