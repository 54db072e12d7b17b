import GuestImage.Rehearsal.Shell.Numeral
import GuestImage.Rehearsal.Shell.Program.Quoting

/-!
# Formats

A format is text with escapes and directives. It is used again while there are arguments that its
directives take. The shell's own printer and the program of the same name differ in a few escapes
and in what they say of a bad argument: this is what a dialect tells.
-/

namespace GuestImage.Rehearsal.Shell

/-- The octet of a letter after a backslash. -/
def escapeOf? : Char → Option Char
  | 'a' => some '\x07'
  | 'b' => some '\x08'
  | 'e' => some '\x1b'
  | 'f' => some '\x0c'
  | 'n' => some '\n'
  | 'r' => some '\r'
  | 't' => some '\t'
  | 'v' => some '\x0b'
  | '\\' => some '\\'
  | _ => none

/-- Whether a character is an octal digit. -/
def isOctal (c : Char) : Bool :=
  '0' ≤ c && c ≤ '7'

/-- The character that octal digits, or those of another base, stand for as an octet. -/
def octetOfDigits (base : Nat) (ds : List Char) : Char :=
  Char.ofNat (ds.foldl (fun n c => n * base + digitOf c) 0 % 256)

/-- The digits that a text starts with, up to a number of them. -/
def digitsUpTo (limit base : Nat) (cs : List Char) : List Char :=
  (cs.take limit).takeWhile fun c => digitOf c < base

/-- How two printers differ. -/
structure Dialect where
  /-- Whether the letter `x` after a backslash starts the number of an octet, and the letter `c`
  ends what is printed also in a format. -/
  hasNumbers : Bool
  /-- Whether the letters `u` and `U` after a backslash start the number of a character, and a
  double quote stands for itself. -/
  hasPoints : Bool
  /-- The numbers that real numbers are taken for. -/
  grid : Real.Grid
  /-- The marks that may come first in a directive. -/
  marks : List Char
  /-- The letters that mean nothing before the letter of a directive. -/
  fillers : List Char
  /-- Whether the letter of a directive may stand after marks, a width, a precision and fillers. -/
  allows : List Char → Char → Bool
  /-- What is said of an argument that is no number. -/
  notNumber : String → String
  /-- What is said of an argument that is more than a number. -/
  notOnlyNumber : String → String
  /-- What is said of a number that is too large. -/
  outOfRange : String → String
  /-- What is said of a directive that has no meaning. -/
  badDirective : String → String
  /-- What is said of a directive that lacks its letter. -/
  unfinished : String → String
  /-- A width or, if it `isPrecision`, a precision that the number of an argument stands for, or
  what is said of that argument. -/
  size : (isPrecision : Bool) → String → Int → Except String Int
  /-- What is said where a width or a precision is too large, and nothing more is printed. -/
  oversized : Option String
  /-- The exit status after that. -/
  badStatus : Nat
  /-- What is said where there are arguments that nothing takes. -/
  excess : Option (String → String)

namespace Dialect

/-- The characters of an escape, by what comes after its backslash, and how many characters it has;
`none` in place of the characters says that nothing more is printed. In an argument of a directive,
an octal number may have one more zero before it. -/
def escape (d : Dialect) (inArgument : Bool) (cs : List Char) : Option (List Char) × Nat :=
  match cs with
  | [] => (some ['\\'], 0)
  | c :: rest =>
    if c = 'c' && (inArgument || d.hasNumbers) then (none, 1)
    else if isOctal c then
      if inArgument && c = '0' then
        let ds := digitsUpTo 3 8 rest
        (some [octetOfDigits 8 ds], ds.length + 1)
      else
        let ds := digitsUpTo 3 8 cs
        (some [octetOfDigits 8 ds], ds.length)
    else
      let numbered (limit : Nat) : Option (List Char) × Nat :=
        let ds := digitsUpTo limit 16 rest
        let n := ds.foldl (fun n c => n * 16 + digitOf c) 0
        if c = 'x' then (some [octetOfDigits 16 ds], ds.length + 1)
        else (some (spread (String.singleton (Char.ofNat n))).toList, ds.length + 1)
      if d.hasNumbers && c = 'x' && (rest.head?.any fun x => digitOf x < 16) then numbered 2
      else if d.hasPoints && c = 'u' then numbered 4
      else if d.hasPoints && c = 'U' then numbered 8
      else if d.hasPoints && c = '"' then (some ['"'], 1)
      else
        match escapeOf? c with
        | some e => (some [e], 1)
        | none => if d.hasNumbers then (some ['\\', c], 1) else (some ['\\'], 0)

/-- Whether an escape for the number of a character lacks digits. -/
def lacksDigits (d : Dialect) (cs : List Char) : Bool :=
  let digits (limit : Nat) : Nat := (digitsUpTo limit 16 cs.tail).length
  d.hasPoints &&
    match cs with
    | 'x' :: _ => digits 2 = 0
    | 'u' :: _ => digits 4 < 4
    | 'U' :: _ => digits 8 < 8
    | _ => false

/-- A text with its escapes replaced, and whether it stops what is printed. -/
def unescape (d : Dialect) : (fuel : Nat) → List Char → List Char × Bool
  | 0, cs => (cs, false)
  | _ + 1, [] => ([], false)
  | fuel + 1, '\\' :: cs =>
    match d.escape true cs with
    | (none, _) => ([], true)
    | (some s, used) =>
      let (more, stops) := unescape d fuel (cs.drop used)
      (s ++ more, stops)
  | fuel + 1, c :: cs =>
    let (more, stops) := unescape d fuel cs
    (c :: more, stops)

end Dialect

/-- What is printed so far, and what is left. -/
structure Printing where
  /-- What is printed, in reverse. -/
  output : List Char := []
  complaints : List String := []
  arguments : List String
  status : Nat := 0
  stopped : Bool := false
  /-- Whether a directive had no meaning. -/
  misused : Bool := false
  /-- Whether a directive was left out that asked for too much. -/
  gap : Bool := false

namespace Printing

/-- Prints more. -/
def put (p : Printing) (s : String) : Printing :=
  { p with output := s.toList.reverse ++ p.output }

/-- Complains. -/
def complain (p : Printing) (message : String) : Printing :=
  { p with complaints := p.complaints ++ [message], status := 1 }

/-- The next argument. -/
def next (p : Printing) : Option String × Printing :=
  match p.arguments with
  | [] => (none, p)
  | a :: rest => (some a, { p with arguments := rest })

/-- The number of the character after the quote that an argument starts with, if it starts with
one. A program takes a whole character, and says that it does not take the rest. -/
def quoted? (d : Dialect) (p : Printing) (a : String) : Option (Nat × Printing) :=
  match a.toList with
  | q :: cs =>
    if q ≠ '"' && q ≠ '\x27' then none
    else if !d.hasPoints then some ((cs.headD '\x00').toNat, p)
    else
      match Utf8.pieces (octetsOf (String.ofList cs)) with
      | [] => none
      | .character c :: _ =>
        let rest := cs.drop c.utf8Size
        some (c.toNat, if rest.isEmpty then p else
          { p with
            complaints := p.complaints ++
              ["warning: " ++ String.ofList rest ++
                ": character(s) following character constant have been ignored"] })
      | .malformed .. :: _ => some ((cs.headD '\x00').toNat, p)
  | [] => none

/-- The next argument as a whole number, signed or not. -/
def number (d : Dialect) (p : Printing) (isSigned : Bool) : Int × Printing :=
  match p.next with
  | (none, p) => (0, p)
  | (some a, p) =>
    match p.quoted? d a, a.toList with
    | some (n, p), _ => (n, p)
    | none, cs =>
      let body := cs.dropWhile fun c => [' ', '\t', '\n', '\x0b', '\x0c', '\r'].contains c
      let (negative, digits) := match body with
        | '-' :: rest => (true, rest)
        | '+' :: rest => (false, rest)
        | _ => (false, body)
      match leadingNumber digits with
      | none => (0, if a.isEmpty then p else p.complain (d.notNumber a))
      | some (n, used) =>
        let limit := if !isSigned then wordCount - 1 else if negative then maxWord + 1 else maxWord
        let value : Int := if limit < n then limit else n
        let value := if negative && !(!isSigned && limit < n) then -value else value
        let p :=
          if used < digits.length then p.complain (d.notOnlyNumber a)
          else if limit < n then p.complain (d.outOfRange a)
          else p
        (value, p)

/-- The next argument as a real number. -/
def real (d : Dialect) (p : Printing) : Real × Printing :=
  match p.next with
  | (none, p) => (.finite false 0 1, p)
  | (some a, p) =>
    match p.quoted? d a with
    | some (n, p) => (.finite false n 1, p)
    | none =>
      match Real.read d.grid a.toList with
      | none => (.finite false 0 1, if a.isEmpty then p else p.complain (d.notNumber a))
      | some (x, isLost, rest) =>
        (x,
          if !rest.isEmpty then p.complain (d.notOnlyNumber a)
          else if isLost then p.complain (d.outOfRange a)
          else p)

end Printing

/-- A text cut to the precision of a directive, and filled up to its width. -/
def Directive.text (d : Directive) (s : String) : String :=
  d.fill (match d.precision with
    | none => s
    | some n => String.ofList (s.toList.take n))

/-- Prints an argument by a directive; `none` where the directive has no meaning. -/
def Printing.directive (d : Dialect) (p : Printing) (v : Directive) : Option Printing :=
  if ['d', 'i'].contains v.letter then
    let (n, p) := p.number d true
    some (p.put (v.signed n))
  else if ['o', 'u', 'x', 'X'].contains v.letter then
    let (n, p) := p.number d false
    some (p.put (v.unsigned (toUnsigned n)))
  else if ['a', 'A', 'e', 'E', 'f', 'F', 'g', 'G'].contains v.letter then
    let (x, p) := p.real d
    some (p.put (v.real d.grid x))
  else
    match v.letter with
    | 's' =>
      let (a, p) := p.next
      some (p.put (v.text (a.getD "")))
    | 'q' =>
      if !d.hasPoints then none
      else
        let (a, p) := p.next
        some (p.put (a.elim "" shownName))
    | 'c' =>
      let (a, p) := p.next
      let c := ((a.getD "").toList.head?).getD '\x00'
      if a.isNone || a = some "" && d.hasNumbers then some (p.put (v.fill "\x00"))
      else some (p.put (v.fill (String.singleton c)))
    | 'b' =>
      let (a, p) := p.next
      let (cs, stops) := d.unescape ((a.getD "").length + 1) (a.getD "").toList
      let p := p.put (v.text (String.ofList cs))
      some { p with stopped := stops }
    | _ => none

/-- The width or the precision that an argument gives for a star, or that digits give. -/
def Printing.size (d : Dialect) (p : Printing) (isPrecision : Bool) (cs : List Char) :
    Option Int × Printing × List Char :=
  match cs with
  | '*' :: rest =>
    let (n, after) := p.number d true
    match d.size isPrecision (p.arguments.headD "") n with
    | .ok n => (some n, after, rest)
    | .error message =>
      (none, { after with complaints := after.complaints ++ [message], misused := true }, rest)
  | _ =>
    let ds := cs.takeWhile Char.isDigit
    (if ds.isEmpty then none else some (Nat.ofDigitChars 10 ds 0 : Nat), p, cs.drop ds.length)

/-- Widths and precisions that can be printed are less. -/
def maxSize : Nat := 0x1000000

/-- Prints an argument by a directive, unless that asks for too much; `none` where the directive has
no meaning. -/
def Printing.sized (d : Dialect) (p : Printing) (v : Directive) : Option Printing :=
  if v.width < maxSize && v.precision.all (· < maxSize) then p.directive d v
  else
    (p.directive d { v with width := 0, precision := none }).map fun after =>
      let after := { after with output := p.output }
      match d.oversized with
      | some message =>
        { after with complaints := after.complaints ++ [message], misused := true }
      | none => { after with gap := true }

/-- Prints a format once. -/
def Printing.once (d : Dialect) : (fuel : Nat) → Printing → List Char → Printing
  | 0, p, _ => p
  | _ + 1, p, [] => p
  | fuel + 1, p, '\\' :: rest =>
    if d.lacksDigits rest then
      { p with
        complaints := p.complaints ++ ["missing hexadecimal number in escape"]
        misused := true }
    else
      match d.escape false rest with
      | (none, _) => { p with stopped := true }
      | (some s, used) => once d fuel (p.put (String.ofList s)) (rest.drop used)
  | fuel + 1, p, '%' :: '%' :: rest => once d fuel (p.put "%") rest
  | fuel + 1, p, '%' :: rest =>
    let marks := rest.takeWhile d.marks.contains
    let (width, p, rest') := p.size d false (rest.drop marks.length)
    let (precision, p, rest') := match rest' with
      | '.' :: more =>
        if p.misused then (none, p, more)
        else
          let (n, p, more) := p.size d true more
          (some (n.getD 0), p, more)
      | _ => (none, p, rest')
    if p.misused then p
    else match rest'.dropWhile d.fillers.contains with
    | [] =>
      { p with
        complaints := p.complaints ++ [d.unfinished ("%" ++ String.ofList rest)]
        misused := true }
    | letter :: rest' =>
      let width := width.getD 0
      let v : Directive :=
        { letter
          marks := if width < 0 then '-' :: marks else marks
          width := width.natAbs
          precision := precision.bind fun n => if n < 0 then none else some n.toNat }
      let shown := rest.take (rest.length - rest'.length)
      match if d.allows shown.dropLast letter then p.sized d v else none with
      | some p => if p.stopped || p.misused then p else once d fuel p rest'
      | none =>
        { p with
          complaints := p.complaints ++ [d.badDirective ("%" ++ String.ofList shown)]
          misused := true }
  | fuel + 1, p, c :: rest => once d fuel { p with output := c :: p.output } rest

/-- Prints a format again while its directives take arguments. -/
def Printing.again (d : Dialect) (format : List Char) : (rounds : Nat) → Printing → Printing
  | 0, p => p
  | rounds + 1, p =>
    let before := p.arguments.length
    let p := p.once d (format.length + 1) format
    if p.stopped || p.misused || p.arguments.isEmpty then p
    else if p.arguments.length = before then
      match d.excess, p.arguments with
      | some say, a :: _ => { p with complaints := p.complaints ++ [say a] }
      | _, _ => p
    else again d format rounds p

/-- What is printed for a format and arguments. -/
def printFormat (d : Dialect) (format : String) (arguments : List String) : Printing :=
  Printing.again d format.toList (arguments.length + 1) { arguments }

/-- The dialect of the shell's own printer. -/
def shellDialect : Dialect :=
  { hasNumbers := false
    hasPoints := false
    marks := ['#', '-', '+', ' ', '0']
    fillers := []
    allows := fun _ _ => true
    grid := .double
    notNumber := fun a => a ++ ": expected numeric value"
    notOnlyNumber := fun a => a ++ ": not completely converted"
    outOfRange := fun a => a ++ ": Numerical result out of range"
    badDirective := fun v => v ++ ": invalid directive"
    unfinished := fun _ => "missing format character"
    size := fun _ _ n => .ok (n.bmod 0x100000000)
    oversized := some "xvsnprintf failed"
    badStatus := 2
    excess := none }

/-- Whether the program takes the letter of a directive after what stands before it. -/
def programAllows (before : List Char) (letter : Char) : Bool :=
  let marks := before.takeWhile fun c => ['#', '-', '+', ' ', '0', '\x27', 'I'].contains c
  let lacks (refused : List Char) : Bool := !marks.any refused.contains
  match letter with
  | 'b' | 'q' => before.isEmpty
  | 'c' => lacks ['#', '0', '\x27', 'I'] && !before.contains '.'
  | 's' => lacks ['#', '0', '\x27', 'I']
  | 'd' | 'i' | 'u' => lacks ['#']
  | 'o' | 'x' | 'X' | 'a' | 'A' | 'e' | 'E' => lacks ['\x27', 'I']
  | _ => true

/-- The width or the precision that a number stands for in the program. A precision that is
negative is none. -/
def programSize (isPrecision : Bool) (given : String) (n : Int) : Except String Int :=
  if isPrecision && n < 0 then .ok (-1)
  else if -0x80000000 ≤ n && n < 0x80000000 then .ok n
  else
    .error ((if isPrecision then "invalid precision: " else "invalid field width: ") ++
      inQuotes given)

/-- The dialect of the program. -/
def programDialect : Dialect :=
  { hasNumbers := true
    hasPoints := true
    marks := ['#', '-', '+', ' ', '0', '\x27', 'I']
    fillers := ['l', 'L', 'h', 'j', 't', 'z']
    allows := programAllows
    grid := .extended
    notNumber := fun a => inQuotes a ++ ": expected a numeric value"
    notOnlyNumber := fun a => inQuotes a ++ ": value not completely converted"
    outOfRange := fun a => inQuotes a ++ ": Numerical result out of range"
    badDirective := fun v => v ++ ": invalid conversion specification"
    unfinished := fun v => v ++ ": invalid conversion specification"
    size := programSize
    oversized := none
    badStatus := 1
    excess := some fun a => "warning: ignoring excess arguments, starting with " ++ inQuotes a }

end GuestImage.Rehearsal.Shell
