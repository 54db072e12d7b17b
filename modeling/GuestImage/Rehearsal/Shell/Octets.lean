import GuestImage.Text.Utf8

/-!
# Octets as characters

A shell works on octets and gives a meaning to some of them, which are letters and signs of ASCII.
Here its texts are strings in which each character stands for the octet of its number.
-/

namespace GuestImage.Rehearsal.Shell

/-- The octets of a text, each as a character. -/
def spread (s : String) : String :=
  String.ofList ((Utf8.encode s).map fun b => Char.ofNat b.toNat)

/-- The octets that characters stand for. -/
def octetsOf (s : String) : List UInt8 :=
  s.toList.map fun c => UInt8.ofNat c.toNat

/-- The characters that stand for octets. -/
def ofOctets (bs : List UInt8) : String :=
  String.ofList (bs.map fun b => Char.ofNat b.toNat)

/-- Whether a character can start a name. -/
def isNameStart (c : Char) : Bool :=
  'a' ≤ c && c ≤ 'z' || 'A' ≤ c && c ≤ 'Z' || c = '_'

/-- Whether a character can be in a name. -/
def isNameRest (c : Char) : Bool :=
  isNameStart c || c.isDigit

/-- Whether a text is a name of a parameter. -/
def isName (s : String) : Bool :=
  match s.toList with
  | [] => false
  | c :: rest => isNameStart c && rest.all isNameRest

/-- The digits of a number, or the number of a text of nothing but digits. -/
def number? (s : String) : Option Nat :=
  if !s.isEmpty && s.toList.all Char.isDigit then some (Nat.ofDigitChars 10 s.toList 0) else none

/-- The number of a text of digits, with a sign before them and blanks around that. -/
def decimal? (s : String) : Option Int :=
  let isSpace (c : Char) : Bool := [' ', '\t', '\n', '\x0b', '\x0c', '\r'].contains c
  let cs := s.toList.dropWhile isSpace
  let (negative, cs) := match cs with
    | '-' :: rest => (true, rest)
    | '+' :: rest => (false, rest)
    | _ => (false, cs)
  let ds := cs.takeWhile Char.isDigit
  if ds.isEmpty || !(cs.drop ds.length).all isSpace then none
  else
    let n : Int := (Nat.ofDigitChars 10 ds 0 : Nat)
    some (if negative then -n else n)

end GuestImage.Rehearsal.Shell
