import GuestImage.Rehearsal.Shell.Program.Quoting
import GuestImage.Rehearsal.Shell.Program.Usage

/-!
# Programs on lines

The first or the last lines or octets of files, and the lines of files in order.
-/

namespace GuestImage.Rehearsal.Shell

/-- The lines of octets, each with its end. -/
def splitLines (octets : List UInt8) : List (List UInt8) :=
  octets.foldr (fun b (lines : List (List UInt8)) =>
    match lines with
    | [] => [[b]]
    | line :: more => if b = 10 then [b] :: lines else (b :: line) :: more) []

/-- How many octets or lines of a file are meant, and whether they are counted from the other end
of it. -/
structure Extent where
  octets : Bool
  count : Nat
  fromOther : Bool
  deriving DecidableEq, Repr

namespace Extent

/-- The units of an extent in a file. -/
def units (e : Extent) (octets : List UInt8) : List (List UInt8) :=
  if e.octets then octets.map ([·]) else splitLines octets

/-- The part of a file from its start that an extent means. -/
def first (e : Extent) (octets : List UInt8) : List UInt8 :=
  let units := e.units octets
  (if e.fromOther then units.take (units.length - e.count) else units.take e.count).flatten

/-- The part of a file up to its end that an extent means. -/
def last (e : Extent) (octets : List UInt8) : List UInt8 :=
  let units := e.units octets
  (if e.fromOther then units.drop (e.count - 1) else units.drop (units.length - e.count)).flatten

/-- The factor of a letter after a number. -/
def factor? (s : String) : Option Nat :=
  match s with
  | "" => some 1
  | "b" => some 512
  | "k" | "K" | "KiB" => some 1024
  | "kB" | "KB" => some 1000
  | "m" | "M" | "MiB" => some (1024 * 1024)
  | "MB" => some (1000 * 1000)
  | "G" | "GiB" => some (1024 * 1024 * 1024)
  | "GB" => some (1000 * 1000 * 1000)
  | _ => none

/-- The number that an argument gives after its sign, if it gives one. -/
def count? (s : List Char) : Option Nat := do
  let n ← number? (String.ofList (s.takeWhile Char.isDigit))
  return n * (← factor? (String.ofList (s.dropWhile Char.isDigit)))

/-- The extent of an argument; the sign says that it is counted from the other end. -/
def read? (octets : Bool) (sign : Char) (argument : String) : Option Extent :=
  match argument.toList with
  | c :: rest =>
    if c = sign then (count? rest).map (⟨octets, ·, true⟩)
    else if c = '+' || c = '-' then (count? rest).map (⟨octets, ·, false⟩)
    else (count? (c :: rest)).map (⟨octets, ·, false⟩)
  | [] => none

/-- The extent that options ask for, ten lines if they ask for none, or what is said of it. -/
def ofOptions (c : Called) (sign : Char) : Except String Extent :=
  match c.options.reverse.find? fun o => o.1 = 'n' || o.1 = 'c' with
  | none => .ok ⟨false, 10, false⟩
  | some (letter, argument) =>
    let octets := letter = 'c'
    match read? octets sign argument with
    | some e => .ok e
    | none =>
      .error ("invalid number of " ++ (if octets then "bytes" else "lines") ++ ": " ++
        inQuotes argument)

/-- The words of a call in which a number after a dash was an option of its own. -/
def oldWords : List String → List String
  | w :: rest =>
    match w.toList with
    | '-' :: c :: cs =>
      if (c :: cs).all Char.isDigit then "-n" :: String.ofList (c :: cs) :: rest else w :: rest
    | _ => w :: rest
  | [] => []

end Extent

/-- The options of a program that shows a part of files. -/
def partUsage (program : String) : Usage :=
  { program
    letters := [('n', true), ('c', true), ('q', false), ('v', false)]
    names :=
      [("lines", 'n'), ("bytes", 'c'), ("quiet", 'q'), ("silent", 'q'), ("verbose", 'v')] }

/-- The octets that are read for the first lines of a queue, which is read in blocks. -/
def blocksOf (size : Nat) : Nat :=
  (size + 8191) / 8192 * 8192

namespace Exec

/-- The octets of the file that an operand names. Of the standard input, no more than what the
first part of it needs is taken where `first` says what that is. -/
def octetsForPart (operand : String) (first : Option Extent) :
    Exec (Except String (List UInt8)) := do
  match first, operand with
  | some e, "-" =>
    match ← available 0 with
    | .error message => return .error message
    | .ok octets =>
      let size := (e.first octets).length
      let isQueue := match ← opened? 0 with
        | some (_, .queue ..) => true
        | _ => false
      consume 0 (if e.fromOther then octets.length else if isQueue && !e.octets then
        min octets.length (blocksOf size) else size)
      return .ok octets
  | _, operand => octetsOfFile operand

/-- Shows a part of files. -/
def showParts (program : String) (isFirst headed : Bool) (e : Extent) :
    (isNext : Bool) → (status : Nat) → List String → Exec Nat
  | _, status, [] => return status
  | isNext, status, file :: rest => do
    let shown := if file = "-" then "standard input" else file
    match ← octetsForPart file (if isFirst then some e else none) with
    | .error message =>
      let isThere := file = "-" || (match ← entry file .object with
        | .ok e => e.permits .read
        | .error _ => false)
      if isThere then warn program ("error reading " ++ quotedName shown ++ ": " ++ message)
      else warn program ("cannot open " ++ quotedName shown ++ " for reading: " ++ message)
      showParts program isFirst headed e isNext 1 rest
    | .ok octets =>
      let gap := if isNext then "\n" else ""
      let heading := if headed then gap ++ "==> " ++ shown ++ " <==\n" else ""
      let part := if isFirst then e.first octets else e.last octets
      let status' ← finish program (heading ++ ofOctets part) status
      showParts program isFirst headed e true status' rest

/-- The program that shows the first or the last part of files. -/
def showingPart (isFirst : Bool) : Program := fun program words =>
  called (partUsage program) (Extent.oldWords words) fun c => do
    match Extent.ofOptions c (if isFirst then '-' else '+') with
    | .error message =>
      warn program message
      return 1
    | .ok e =>
      let files := if c.operands.isEmpty then ["-"] else c.operands
      showParts program isFirst ((1 < files.length && !c.has 'q') || c.has 'v') e false 0 files

/-- The number that a line starts with, as hundredths of a million and more digits are not told
apart. -/
def leadingDecimal (line : List UInt8) : Int :=
  let cs := (ofOctets line).toList.dropWhile fun c => c = ' ' || c = '\t'
  let (negative, cs) := match cs with
    | '-' :: rest => (true, rest)
    | _ => (false, cs)
  let whole := cs.takeWhile Char.isDigit
  let decimals := match cs.drop whole.length with
    | '.' :: rest => (rest.takeWhile Char.isDigit).take 8
    | _ => []
  let padded := decimals ++ List.replicate (8 - decimals.length) '0'
  let n := Nat.ofDigitChars 10 (whole ++ padded) 0
  if negative then -(n : Int) else n

/-- The options of the program that puts lines in order. -/
def orderUsage (program : String) : Usage :=
  { program
    letters := [('r', false), ('n', false), ('u', false)]
    names := [("reverse", 'r'), ("numeric-sort", 'n'), ("unique", 'u')] }

/-- Lines without those that are like the one before. -/
def withoutRepeated (same : List UInt8 → List UInt8 → Bool) :
    List (List UInt8) → List (List UInt8)
  | a :: b :: rest =>
    if same a b then withoutRepeated same (a :: rest) else a :: withoutRepeated same (b :: rest)
  | lines => lines
termination_by lines => lines.length

/-- The program that puts the lines of files in order. -/
def ordering : Program := fun program words =>
  called (orderUsage program) words fun c => do
    let mut octets : List UInt8 := []
    for file in if c.operands.isEmpty then ["-"] else c.operands do
      match ← octetsOfFile file with
      | .ok more =>
        octets := octets ++ more ++ if more.isEmpty || more.getLast? = some 10 then [] else [10]
      | .error message =>
        warn program ("cannot read: " ++ shownName file ++ ": " ++ message)
        return 2
    let plain (a b : List UInt8) : Bool := a.dropLast ≤ b.dropLast
    let same (a b : List UInt8) : Bool :=
      if c.has 'n' then leadingDecimal a = leadingDecimal b else a = b
    let before (a b : List UInt8) : Bool :=
      if c.has 'n' && !same a b then leadingDecimal a ≤ leadingDecimal b
      else if c.has 'n' && c.has 'u' then true
      else plain a b
    let ordered := (splitLines octets).mergeSort fun a b =>
      if c.has 'r' && !same a b then before b a else before a b
    let ordered := if c.has 'u' then withoutRepeated same ordered else ordered
    finish program (ofOctets ordered.flatten) 0

end Exec

end GuestImage.Rehearsal.Shell
