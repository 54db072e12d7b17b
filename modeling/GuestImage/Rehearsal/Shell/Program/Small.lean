import GuestImage.Rehearsal.Shell.Format
import GuestImage.Rehearsal.Shell.Program.Usage

/-!
# Small programs

Programs that only end, that print their arguments, that count up, and that pass on what they read,
maybe with other characters.
-/

namespace GuestImage.Rehearsal.Shell

/-- The dialect of the escapes of the program that prints its arguments. -/
def echoDialect : Dialect :=
  { programDialect with hasPoints := false }

/-- The options of the program that prints its arguments, which are letters after a dash as long as
all of them have a meaning: whether an end of line is printed, whether escapes are replaced, and the
arguments that are left. -/
def echoOptions : (ends escapes : Bool) → List String → Bool × Bool × List String
  | ends, escapes, w :: rest =>
    match w.toList with
    | '-' :: c :: cs =>
      if (c :: cs).all fun c => ['n', 'e', 'E'].contains c then
        let last := (c :: cs).reverse.find? fun c => c ≠ 'n'
        echoOptions (ends && !(c :: cs).contains 'n') (last.elim escapes (· = 'e')) rest
      else (ends, escapes, w :: rest)
    | _ => (ends, escapes, w :: rest)
  | ends, escapes, [] => (ends, escapes, [])

/-- The characters between two others. -/
def charactersBetween (a b : Char) : List Char :=
  (List.range (b.toNat + 1 - a.toNat)).map fun n => Char.ofNat (a.toNat + n)

/-- The characters of a class, in their order, if there is such a class. -/
def classMembers? (name : String) : Option (List Char) :=
  match name with
  | "lower" => some (charactersBetween 'a' 'z')
  | "upper" => some (charactersBetween 'A' 'Z')
  | "digit" => some (charactersBetween '0' '9')
  | "alpha" => some (charactersBetween 'A' 'Z' ++ charactersBetween 'a' 'z')
  | "alnum" =>
    some (charactersBetween '0' '9' ++ charactersBetween 'A' 'Z' ++ charactersBetween 'a' 'z')
  | "space" => some ['\t', '\n', '\x0b', '\x0c', '\r', ' ']
  | "blank" => some ['\t', ' ']
  | "punct" => some ((charactersBetween '!' '~').filter fun c => !c.isAlphanum)
  | "cntrl" => some ((List.range 32).map Char.ofNat ++ ['\x7f'])
  | "print" => some (charactersBetween ' ' '~')
  | "graph" => some (charactersBetween '!' '~')
  | "xdigit" =>
    some (charactersBetween '0' '9' ++ charactersBetween 'A' 'F' ++ charactersBetween 'a' 'f')
  | _ => none

/-- The characters of a set, or what is said of it. -/
def setMembers : (fuel : Nat) → List Char → Except String (List Char)
  | 0, _ => .ok []
  | _ + 1, [] => .ok []
  | fuel + 1, '[' :: ':' :: cs => do
    let name := cs.takeWhile (· ≠ ':')
    match cs.drop name.length with
    | ':' :: ']' :: rest =>
      match classMembers? (String.ofList name) with
      | some members => return members ++ (← setMembers fuel rest)
      | none => .error ("invalid character class " ++ inQuotes (String.ofList name))
    | _ => return '[' :: (← setMembers fuel (':' :: cs))
  | fuel + 1, '\\' :: cs => do
    match cs with
    | [] => return ['\\']
    | c :: rest =>
      let ds := digitsUpTo 3 8 cs
      if ds.isEmpty then return (escapeOf? c).getD c :: (← setMembers fuel rest)
      else return octetOfDigits 8 ds :: (← setMembers fuel (cs.drop ds.length))
  | fuel + 1, a :: '-' :: b :: rest => do
    if b < a then
      .error ("range-endpoints of '" ++ String.ofList [a, '-', b] ++
        "' are in reverse collating sequence order")
    else return charactersBetween a b ++ (← setMembers fuel rest)
  | fuel + 1, c :: rest => do
    return c :: (← setMembers fuel rest)

/-- The options of the program that replaces characters. -/
def replacementUsage (program : String) : Usage :=
  { program
    letters := [('c', false), ('C', false), ('d', false), ('s', false), ('t', false)]
    names :=
      [("complement", 'c'), ("delete", 'd'), ("squeeze-repeats", 's'), ("truncate-set1", 't')] }

/-- What is said of operands that are not as many as the options ask for. -/
def misplaced? (deletes squeezes : Bool) (operands : List String) : Option String :=
  let least := if deletes = squeezes then 2 else 1
  let most := if deletes && !squeezes then 1 else 2
  match operands with
  | [] => some "missing operand"
  | [only] =>
    if 1 < least then
      some ("missing operand after " ++ inQuotes only ++ "\nTwo strings must be given when " ++
        if squeezes then "both deleting and squeezing repeats." else "translating.")
    else none
  | _ => (operands[most]?).map fun extra =>
    "extra operand " ++ inQuotes extra ++ if operands.length = 2 then
      "\nOnly one string may be given when deleting without squeezing repeats." else ""

/-- What a character is replaced by. A character that is in the first set has the same place in the
second one, whose last character stands for those it lacks. -/
def replacement (others : Bool) (first second : List Char) (c : Char) : Char :=
  if others then if first.contains c then c else second.getLastD c
  else
    match (first.reverse.idxOf? c).map (first.length - 1 - ·) with
    | none => c
    | some n => second[n]?.getD (second.getLastD c)

/-- Characters without those of a set that repeat the one before. -/
def squeezed (p : Char → Bool) (cs : List Char) : List Char :=
  (cs.foldl (fun (acc : List Char) c =>
    if p c && acc.head? = some c then acc else c :: acc) []).reverse

/-- The seconds of a time, in a unit that a letter after it may say; all that counts is whether it
is one. -/
def isInterval (s : String) : Bool :=
  match Real.read .extended s.toList with
  | some (.finite negative n _, _, rest) =>
    (!negative || n = 0) && ["", "s", "m", "h", "d"].contains (String.ofList rest)
  | some (.infinite false, _, []) => true
  | _ => false

namespace Exec

/-- The program that prints its arguments. -/
def printingArguments : Program := fun program words => do
  let (ends, escapes, words) := echoOptions true false words
  let text := " ".intercalate words
  let (cs, stops) :=
    if escapes then echoDialect.unescape (text.length + 1) text.toList else (text.toList, false)
  finish program (String.ofList cs ++ if ends && !stops then "\n" else "") 0

/-- The program that prints arguments by a format. -/
def printingFormat : Program := fun program words => do
  match if words.head? = some "--" then words.tail else words with
  | [] =>
    warn program ("missing operand\n" ++ Usage.advice { program })
    return 1
  | format :: arguments =>
    let p := printFormat programDialect format arguments
    for complaint in p.complaints do
      warn program complaint
    if p.gap then
      warn program "write error"
    finish program (String.ofList p.output.reverse)
      (if p.misused || p.gap then 1 else if p.stopped then 0 else p.status)

/-- The program that passes on what it reads, and writes it to files too. -/
def copying : Program := fun program words =>
  called { program, letters := [('a', false), ('i', false)], names := [("append", 'a')] }
    words fun c => do
    match ← readAll 0 with
    | .error message =>
      warn program ("\x27standard input\x27: " ++ message)
      return 1
    | .ok octets =>
      let mut status ← finish program (ofOctets octets) 0
      for file in c.operands do
        match ← openPath file (if c.has 'a' then .append else .write) with
        | .ok n =>
          let _ ← writeOpened n octets
        | .error o =>
          warn program (shownName file ++ ": " ++ o.message)
          status := 1
      return status

/-- The program that passes on what it reads with other characters. -/
def replacing : Program := fun program words =>
  called (replacementUsage program) words fun c => do
    let sets := c.operands.mapM fun s => setMembers (s.length + 1) s.toList
    let refuse (message : String) : Exec Nat := do
      warn program message
      return 1
    match misplaced? (c.has 'd') (c.has 's') c.operands, sets, ← readAll 0 with
    | some message, _, _ => refuse (message ++ "\n" ++ (replacementUsage program).advice)
    | none, .error message, _ => refuse message
    | none, _, .error message => refuse ("read error: " ++ message)
    | none, .ok [], _ => return 1
    | none, .ok (first :: rest), .ok octets =>
      if rest = [[]] && !c.has 'd' && !c.has 't' then
        return ← refuse "when not truncating set1, string2 must be non-empty"
      let others := c.has 'c' || c.has 'C'
      let isMember (x : Char) : Bool := first.contains x != others
      let cs := (ofOctets octets).toList
      let cs := match rest with
        | second :: _ =>
          let replaced := if c.has 'd' then cs.filter fun x => !isMember x
            else cs.map (replacement others
              (if c.has 't' then first.take second.length else first) second)
          if c.has 's' then squeezed second.contains replaced else replaced
        | [] =>
          if c.has 'd' then cs.filter fun x => !isMember x else squeezed isMember cs
      finish program (String.ofList cs) 0

/-- The program that counts up or down. -/
def countingUp : Program := fun program words => do
  let (separator, operands) := match words with
    | "-s" :: separator :: operands => (separator, operands)
    | w :: operands =>
      match w.toList with
      | '-' :: 's' :: separator => (String.ofList separator, operands)
      | _ => ("\n", words)
    | [] => ("\n", [])
  match operands.mapM wholeNumber? with
  | none =>
    let bad := (operands.find? fun w => (wholeNumber? w).isNone).getD ""
    warn program ("invalid floating point argument: " ++ inQuotes bad ++
      "\n" ++ Usage.advice { program })
    return 1
  | some numbers =>
    let run (first step last : Int) : Exec Nat :=
      let count := if step = 0 then 0 else ((last - first).fdiv step + 1).toNat
      let items := (List.range count).map fun n : Nat => toString (first + step * n)
      finish program (if items.isEmpty then "" else separator.intercalate items ++ "\n") 0
    match numbers with
    | [last] => run 1 1 last
    | [first, last] => run first 1 last
    | [first, step, last] => run first step last
    | _ =>
      warn program ("missing operand\n" ++ Usage.advice { program })
      return 1

/-- The program that waits. -/
def pausing : Program := fun program words =>
  called { program } words fun c => do
    let advice := Usage.advice { program }
    match c.operands, c.operands.filter fun w => !isInterval w with
    | [], _ =>
      warn program ("missing operand\n" ++ advice)
      return 1
    | _, [] => return 0
    | _, bad =>
      for w in bad.dropLast do
        warn program ("invalid time interval " ++ inQuotes w)
      warn program ("invalid time interval " ++ inQuotes (bad.getLastD "") ++ "\n" ++ advice)
      return 1

end Exec

end GuestImage.Rehearsal.Shell
