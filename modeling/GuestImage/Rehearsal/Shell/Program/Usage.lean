import GuestImage.Rehearsal.Shell.Files

/-!
# How programs are called

The words that a program is called with are options and operands. Options may stand anywhere before
a word of two dashes. An option is a letter after a dash, alone or with other letters, or a name
after two dashes, which may be cut short while it is clear; its argument follows it at once or is
the next word.
-/

namespace GuestImage.Rehearsal.Shell

/-- What a program does with the name it is called by and its arguments, and its exit status. -/
abbrev Program := String → List String → Exec Nat

/-- The options of a program. -/
structure Usage where
  program : String
  /-- The letters, and whether they take an argument. -/
  letters : List (Char × Bool) := []
  /-- The names, and the letters they stand for. -/
  names : List (String × Char) := []

/-- What a program is called with. -/
structure Called where
  options : List (Char × String) := []
  operands : List String := []
  deriving DecidableEq, Repr

namespace Called

/-- Whether an option is there. -/
def has (c : Called) (letter : Char) : Bool :=
  c.options.any (·.1 = letter)

/-- The argument of the last option of a letter. -/
def argument? (c : Called) (letter : Char) : Option String :=
  (c.options.reverse.lookup letter)

/-- With one more option before the others. -/
def withOption (c : Called) (letter : Char) (argument : String) : Called :=
  { c with options := (letter, argument) :: c.options }

end Called

namespace Usage

/-- The option that a name stands for in full or cut short, or what is said of the name. -/
def option? (u : Usage) (name : String) : Except String (String × Char) :=
  match u.names.find? (·.1 = name) with
  | some o => .ok o
  | none =>
    match u.names.filter fun o => name.toList.isPrefixOf o.1.toList with
    | [] => .error ("unrecognized option '--" ++ name ++ "'")
    | [o] => .ok o
    | o :: others =>
      if others.all (·.2 = o.2) then .ok o
      else
        .error ("option '--" ++ name ++ "' is ambiguous; possibilities:" ++
          String.join ((o :: others).map fun o => " '--" ++ o.1 ++ "'"))

/-- What letters after a dash stand for, and whether the last of them lacks its argument. -/
def lettersOf (u : Usage) : List Char → Except String (List (Char × String) × Option Char)
  | [] => .ok ([], none)
  | c :: rest =>
    match u.letters.lookup c with
    | none => .error ("invalid option -- '" ++ String.singleton c ++ "'")
    | some false => (u.lettersOf rest).map fun r => ((c, "") :: r.1, r.2)
    | some true => .ok (if rest.isEmpty then ([], some c) else ([(c, String.ofList rest)], none))

/-- What words stand for, or what is said of them. -/
def read (u : Usage) : List String → Except String Called
  | [] => .ok {}
  | "--" :: rest => .ok { operands := rest }
  | w :: rest =>
    match w.toList with
    | '-' :: '-' :: cs => do
      let (name, letter) ← u.option? (String.ofList (cs.takeWhile (· ≠ '=')))
      match u.letters.lookup letter == some true, cs.dropWhile (· ≠ '='), rest with
      | true, _ :: argument, rest =>
        return (← u.read rest).withOption letter (String.ofList argument)
      | true, [], argument :: rest => return (← u.read rest).withOption letter argument
      | true, [], [] => .error ("option '--" ++ name ++ "' requires an argument")
      | false, [], rest => return (← u.read rest).withOption letter ""
      | false, _ :: _, _ => .error ("option '--" ++ name ++ "' doesn't allow an argument")
    | '-' :: c :: cs => do
      match ← u.lettersOf (c :: cs), rest with
      | (options, none), rest =>
        let called ← u.read rest
        return { called with options := options ++ called.options }
      | (options, some letter), argument :: rest =>
        let called ← u.read rest
        return { called with options := options ++ (letter, argument) :: called.options }
      | (_, some letter), [] =>
        .error ("option requires an argument -- '" ++ String.singleton letter ++ "'")
    | _ => do
      let called ← u.read rest
      return { called with operands := w :: called.operands }

/-- The invitation to ask a program for help. -/
def advice (u : Usage) : String :=
  "Try '" ++ u.program ++ " --help' for more information."

end Usage

namespace Exec

/-- Complains in the name of a program. -/
def warn (program message : String) : Exec Unit := do
  let _ ← write 2 (octetsOf (program ++ ": " ++ message ++ "\n"))

/-- Writes what a program printed. The exit status says whether all went well. -/
def finish (program output : String) (status : Nat) : Exec Nat := do
  if output.isEmpty then return status
  else if ← write 1 (octetsOf output) then return status
  else
    warn program "write error: Bad file descriptor"
    return 1

/-- Runs a program with what it is called with, or complains about that. -/
def called (u : Usage) (words : List String) (act : Called → Exec Nat) : Exec Nat := do
  match u.read words with
  | .ok c => act c
  | .error message =>
    warn u.program (message ++ "\n" ++ u.advice)
    return 1

/-- The octets that are left of what a number of something opened stands for. -/
def octetsFrom (n : Nat) : Exec (Except String (List UInt8)) := do
  let before := (← shell).descriptors
  modifyShell fun s => { s with descriptors := [(0, n)] }
  let octets ← readAll 0
  modifyShell fun s => { s with descriptors := before }
  return octets

/-- The octets of the file that an operand names, a dash being the standard input, or why they
cannot be read. -/
def octetsOfFile (operand : String) : Exec (Except String (List UInt8)) := do
  if operand = "-" then readAll 0
  else
    match ← openPath operand .read with
    | .error o => return .error o.message
    | .ok n => octetsFrom n

end Exec

end GuestImage.Rehearsal.Shell
