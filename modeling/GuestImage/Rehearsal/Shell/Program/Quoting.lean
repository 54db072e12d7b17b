import GuestImage.Rehearsal.Shell.Octets
import GuestImage.Text.Printable

/-!
# Names in complaints

A name in a complaint stands as it is if a shell would read it as one word, and in quotes if it
would not. What cannot be shown is written as an escape.
-/

namespace GuestImage.Rehearsal.Shell

/-- Characters that a shell gives a meaning to. -/
def meaningful : List Char :=
  [' ', '!', '"', '$', '&', '(', ')', '*', ';', '<', '=', '>', '[', '^', '\x60', '|', '?', '\\']

/-- Whether a shell reads characters as they are. -/
def isPlainName : List Char → Bool
  | [] => false
  | ['\x7b'] | ['\x7d'] => false
  | c :: rest =>
    c ≠ '#' && c ≠ '~' &&
      (c :: rest).all fun c => c ≠ '\x27' && !meaningful.contains c

/-- The escape of an octet that cannot be shown. -/
def shownOctet (c : Char) : String :=
  match c with
  | '\x07' => "\\a"
  | '\x08' => "\\b"
  | '\x0c' => "\\f"
  | '\n' => "\\n"
  | '\r' => "\\r"
  | '\t' => "\\t"
  | '\x0b' => "\\v"
  | c =>
    let digits := Nat.toDigits 8 c.toNat
    "\\" ++ String.ofList (List.replicate (3 - digits.length) '0' ++ digits)

/-- A stretch of a name, as octets: one that can be shown, or octets that cannot. -/
abbrev Stretch := Bool × String

/-- The stretches of a name. -/
def stretches (name : String) : List Stretch :=
  (Utf8.pieces (octetsOf name)).flatMap fun
    | .character c =>
      if Text.isPrintable c then [(true, spread (String.singleton c))]
      else (spread (String.singleton c)).toList.map fun c => (false, String.singleton c)
    | .malformed _ octets _ => (ofOctets octets).toList.map fun c => (false, String.singleton c)

/-- Stretches between single quotes; `escaping` says that an escape was written last. -/
def quoteStretches : (escaping : Bool) → List Stretch → String
  | _, [] => "\x27"
  | escaping, (true, s) :: rest =>
    (if escaping then "\x27\x27" else "") ++ (if s = "\x27" then "\x27\\\x27\x27" else s) ++
      quoteStretches false rest
  | escaping, (false, s) :: rest =>
    (if escaping then "" else "\x27$\x27") ++ String.join (s.toList.map shownOctet) ++
      quoteStretches true rest

/-- A name as a complaint shows it. -/
def shownName (name : String) : String :=
  let parts := stretches name
  let showable := parts.all (·.1)
  if showable && isPlainName name.toList then name
  else if showable && name.toList.contains '\x27' &&
      name.toList.all fun c => c = '\x27' || c = ' ' || !meaningful.contains c then
    "\"" ++ name ++ "\""
  else "\x27" ++ quoteStretches false parts

/-- A text between the quotes of a program's complaints. -/
def inQuotes (s : String) : String :=
  let shown : Stretch → String
    | (true, s) => if s = "\\" || s = spread "’" then "\\" ++ s else s
    | (false, s) => String.join (s.toList.map shownOctet)
  spread "‘" ++ String.join ((stretches s).map shown) ++ spread "’"

/-- A name in quotes. -/
def quotedName (name : String) : String :=
  let s := shownName name
  if s = name then "\x27" ++ name ++ "\x27" else s

end GuestImage.Rehearsal.Shell
