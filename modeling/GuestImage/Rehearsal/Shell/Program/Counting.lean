import GuestImage.Rehearsal.Shell.Program.Quoting
import GuestImage.Rehearsal.Shell.Program.Usage
import GuestImage.Text.Blank
import GuestImage.Text.Columns

/-!
# Counting

Lines, words, characters, octets, and the length of the longest line of files are counted. A word
starts with a character that can be shown and lasts up to a blank.
-/

namespace GuestImage.Rehearsal.Shell

/-- What was counted. -/
structure Counts where
  lines : Nat := 0
  words : Nat := 0
  characters : Nat := 0
  octets : Nat := 0
  longest : Nat := 0
  deriving DecidableEq, Repr

namespace Counts

/-- The counts of all files. -/
def add (a b : Counts) : Counts :=
  { lines := a.lines + b.lines
    words := a.words + b.words
    characters := a.characters + b.characters
    octets := a.octets + b.octets
    longest := max a.longest b.longest }

end Counts

/-- Counts so far, the columns of the current line, and whether it ends in a word. -/
structure Counting where
  counts : Counts := {}
  column : Nat := 0
  inWord : Bool := false

namespace Counting

/-- The options of the program. -/
def usage (program : String) : Usage :=
  { program
    letters := [('c', false), ('l', false), ('m', false), ('w', false), ('L', false)]
    names :=
      [("bytes", 'c'), ("chars", 'm'), ("lines", 'l'), ("words", 'w'), ("max-line-length", 'L')] }

/-- Ends a word. -/
def endWord (c : Counting) : Counting :=
  { c with
    counts := { c.counts with words := c.counts.words + if c.inWord then 1 else 0 }
    inWord := false }

/-- Ends a line, or goes back to its start. -/
def endLine (c : Counting) : Counting :=
  { c.endWord with
    counts := { c.endWord.counts with longest := max c.counts.longest c.column }
    column := 0 }

/-- Counts a character. -/
def character (c : Counting) (x : Char) : Counting :=
  let c := { c with counts := { c.counts with characters := c.counts.characters + 1 } }
  if x = '\n' then
    let c := c.endLine
    { c with counts := { c.counts with lines := c.counts.lines + 1 } }
  else if x = '\r' || x = '\x0c' then c.endLine
  else if x = '\t' then { c.endWord with column := c.column + 8 - c.column % 8 }
  else if x = ' ' then { c.endWord with column := c.column + 1 }
  else if x = '\x0b' then c.endWord
  else if Text.isBlank x then { c.endWord with column := c.column + Text.columns x }
  else if Text.isPrintable x then { c with column := c.column + Text.columns x, inWord := true }
  else c

/-- The counts of octets. -/
def ofOctets (octets : List UInt8) : Counts :=
  let c := (Utf8.pieces octets).foldl (fun c piece =>
    match piece with
    | .character x => c.character x
    | .malformed .. => c) ({} : Counting)
  { c.endLine.counts with octets := octets.length }

/-- The counts that are asked for, by default lines, words and octets. -/
def columns (called : Called) (c : Counts) : List Nat :=
  let called := if called.options.isEmpty then { called with options := [('l', ""), ('w', ""),
    ('c', "")] } else called
  (if called.has 'l' then [c.lines] else []) ++ (if called.has 'w' then [c.words] else []) ++
    (if called.has 'm' then [c.characters] else []) ++
    (if called.has 'c' then [c.octets] else []) ++ if called.has 'L' then [c.longest] else []

/-- A line of counts, each as wide as said, and the name of the file. -/
def row (called : Called) (width : Nat) (c : Counts) (file : Option String) : String :=
  let cell (n : Nat) : String :=
    String.ofList (List.replicate (width - (toString n).length) ' ') ++ toString n
  " ".intercalate ((columns called c).map cell) ++
    file.elim "" (fun f => " " ++ if f.toList.contains '\n' then shownName f else f) ++ "\n"

end Counting

namespace Exec

/-- The size of the file that an operand names, nothing where it is no file. -/
def sizeOf? (operand : String) : Exec (Except Unit (Option Nat)) := do
  if operand = "-" then
    match ← opened? 0 with
    | none => return .error ()
    | some (_, .file place _ _ _ _) =>
      match (← get).world.files.get? place with
      | some (.file _ content) => return .ok (some content.size)
      | _ => return .ok none
    | _ => return .ok none
  else if operand = nullDevice then return .ok none
  else
    match ← entry operand .object with
    | .ok (.file _ content) => return .ok (some content.size)
    | .ok _ => return .ok none
    | .error _ => return .error ()

/-- The width of counts: one for a single count, else that of the size of all files, and seven if
one of them has no size. -/
def countWidth (c : Called) (files : List String) : Exec Nat := do
  if files.length = 1 && (Counting.columns c {}).length = 1 then return 1
  else
    let mut total := 0
    let mut least := 1
    for file in files do
      match ← sizeOf? file with
      | .ok (some n) => total := total + n
      | .ok none => least := 7
      | .error _ => pure ()
    return max least (toString total).length

/-- Counts what is in files. -/
def countFiles (program : String) (c : Called) (width : Nat) :
    Counts → (status : Nat) → (output : String) → List String → Exec (Counts × Nat × String)
  | total, status, output, [] => return (total, status, output)
  | total, status, output, file :: rest => do
    let name := if c.operands.isEmpty then none else some file
    match ← octetsOfFile file with
    | .ok octets =>
      let counts := Counting.ofOctets octets
      countFiles program c width (total.add counts) status
        (output ++ Counting.row c width counts name) rest
    | .error message =>
      let isThere := file = "-" || (match ← entry file .object with
        | .ok e => e.permits .read
        | .error _ => false)
      if isThere then
        let shown := if file = "-" then "standard input" else file
        let status ← finish program output 1
        warn program (shownName shown ++ ": " ++ message)
        countFiles program c width total status (Counting.row c width {} name) rest
      else
        let status ← finish program output 1
        warn program (shownName file ++ ": " ++ message)
        countFiles program c width total status "" rest

/-- The program that counts what is in files. -/
def counting : Program := fun program words =>
  called (Counting.usage program) words fun c => do
    let files := if c.operands.isEmpty then ["-"] else c.operands
    let width ← countWidth c files
    let (total, status, output) ← countFiles program c width {} 0 "" files
    let output :=
      if 1 < files.length then output ++ Counting.row c width total (some "total") else output
    let status ← finish program output status
    if files.contains "-" && ((← shell).descriptors.lookup 0).isNone then
      warn program "-: Bad file descriptor"
      return 1
    else return status

end Exec

end GuestImage.Rehearsal.Shell
