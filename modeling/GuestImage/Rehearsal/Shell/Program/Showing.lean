import GuestImage.Rehearsal.Shell.Program.Quoting
import GuestImage.Rehearsal.Shell.Program.Usage

/-!
# Showing files

Files are shown one after the other as if they were one. Lines may be numbered, ends of lines and
tabs may be shown by signs, and so may what cannot be shown; empty lines that follow one another may
be shown as one.
-/

namespace GuestImage.Rehearsal.Shell

/-- How files are shown. -/
structure Showing where
  numbersLines : Bool
  numbersFullLines : Bool
  marksEnds : Bool
  marksTabs : Bool
  marksOthers : Bool
  joinsEmptyLines : Bool
  deriving DecidableEq, Repr

/-- Where the octets shown so far end. -/
structure ShowingState where
  /-- Whether the next octet starts a line. -/
  atStart : Bool := true
  /-- How many empty lines came last, at most two. -/
  emptyLines : Nat := 0
  /-- The number of the last line that has one. -/
  number : Nat := 0
  deriving DecidableEq, Repr

namespace Showing

/-- The options of the program. -/
def usage (program : String) : Usage :=
  { program
    letters := "AbeEnstTuv".toList.map (·, false)
    names :=
      [("number-nonblank", 'b'), ("number", 'n'), ("squeeze-blank", 's'), ("show-nonprinting", 'v'),
        ("show-ends", 'E'), ("show-tabs", 'T'), ("show-all", 'A')] }

/-- How files are shown by options. -/
def ofOptions (c : Called) : Showing :=
  { numbersLines := c.has 'n' || c.has 'b'
    numbersFullLines := c.has 'b'
    marksEnds := c.has 'E' || c.has 'e' || c.has 'A'
    marksTabs := c.has 'T' || c.has 't' || c.has 'A'
    marksOthers := c.has 'v' || c.has 'e' || c.has 't' || c.has 'A'
    joinsEmptyLines := c.has 's' }

/-- Whether octets are shown as they are. -/
def isPlain (v : Showing) : Bool :=
  !(v.numbersLines || v.marksEnds || v.marksTabs || v.marksOthers || v.joinsEmptyLines)

/-- The number before a line. -/
def lineNumber (n : Nat) : String :=
  let digits := toString n
  String.ofList (List.replicate (6 - digits.length) ' ') ++ digits ++ "\t"

/-- An octet that is no end of a line, as it is shown. -/
def octet (v : Showing) (c : Char) : String :=
  let low (n : Nat) : String :=
    if n < 32 then "^" ++ String.singleton (Char.ofNat (n + 64))
    else if n = 127 then "^?"
    else String.singleton (Char.ofNat n)
  if c = '\t' then if v.marksTabs then "^I" else "\t"
  else if !v.marksOthers then String.singleton c
  else if c.toNat < 128 then low c.toNat
  else "M-" ++ low (c.toNat - 128)

/-- Octets, as characters, as they are shown, in reverse and before what was shown, and where they
end. -/
def shownFrom (v : Showing) : ShowingState → List Char → List Char → List Char × ShowingState
  | s, shown, [] => (shown, s)
  | s, shown, '\n' :: rest =>
    if s.atStart && v.joinsEmptyLines && 1 ≤ s.emptyLines then
      shownFrom v { s with emptyLines := 2 } shown rest
    else
      let numbered := s.atStart && v.numbersLines && !v.numbersFullLines
      let number := if numbered then s.number + 1 else s.number
      let before := if numbered then (lineNumber number).toList else []
      let ending := if v.marksEnds then ['$', '\n'] else ['\n']
      shownFrom v
        { atStart := true, emptyLines := if s.atStart then 1 else 0, number }
        ((before ++ ending).reverse ++ shown) rest
  | s, shown, c :: rest =>
    let numbered := s.atStart && v.numbersLines
    let number := if numbered then s.number + 1 else s.number
    let before := if numbered then (lineNumber number).toList else []
    let self :=
      if c = '\r' && v.marksEnds && rest.head? = some '\n' then ['^', 'M'] else (v.octet c).toList
    shownFrom v { atStart := false, emptyLines := 0, number }
      ((before ++ self).reverse ++ shown) rest

end Showing

namespace Exec

/-- Shows files. -/
def showFiles (program : String) (v : Showing) :
    ShowingState → (status : Nat) → List String → Exec Nat
  | _, status, [] => return status
  | s, status, file :: rest => do
    match ← octetsOfFile file with
    | .error message =>
      warn program (shownName file ++ ": " ++ message)
      if file = "-" && ((← shell).descriptors.lookup 0).isNone then
        warn program ("closing standard input: " ++ message)
      showFiles program v s 1 rest
    | .ok octets =>
      if v.isPlain then
        if octets.isEmpty || (← write 1 octets) then showFiles program v s status rest
        else
          warn program "write error: Bad file descriptor"
          return 1
      else
        let (shown, s) := v.shownFrom s [] (ofOctets octets).toList
        if shown.isEmpty || (← write 1 (octetsOf (String.ofList shown.reverse))) then
          showFiles program v s status rest
        else
          warn program "write error: Bad file descriptor"
          return 1

/-- The program that shows files. -/
def showing : Program := fun program words =>
  called (Showing.usage program) words fun c => do
    if ((← shell).descriptors.lookup 1).isNone then
      warn program "standard output: Bad file descriptor"
      return 1
    else
      let files := if c.operands.isEmpty then ["-"] else c.operands
      showFiles program (Showing.ofOptions c) {} 0 files

end Exec

end GuestImage.Rehearsal.Shell
