import GuestImage.Json.Value
import GuestImage.Text.Decimal

/-!
# Reading JSON texts

A text is read as one value, with white space between its tokens. Numbers with a fraction or an
exponent are no integers and are not read, nor is half of a surrogate pair that stands alone. The
members of an object are kept in the order they are written in.
-/

namespace GuestImage.Json

/-- Whether a character may stand between tokens. -/
def isSpace (c : Char) : Bool :=
  c = ' ' || c = '\t' || c = '\n' || c = '\r'

/-- A text without the white space at its start. -/
def skipSpace (s : List Char) : List Char :=
  s.dropWhile isSpace

/-- The value of a hexadecimal digit. -/
def hexValue? (c : Char) : Option Nat :=
  if '0' ≤ c && c ≤ '9' then some (c.toNat - '0'.toNat)
  else if 'a' ≤ c && c ≤ 'f' then some (c.toNat - 'a'.toNat + 10)
  else if 'A' ≤ c && c ≤ 'F' then some (c.toNat - 'A'.toNat + 10)
  else none

/-- The code unit of four hexadecimal digits. -/
def unitOf? (a b c d : Char) : Option Nat :=
  match hexValue? a, hexValue? b, hexValue? c, hexValue? d with
  | some a, some b, some c, some d => some (((a * 16 + b) * 16 + c) * 16 + d)
  | _, _, _, _ => none

/-- The character of a letter after a backslash. -/
def unescape? (c : Char) : Option Char :=
  if c = '"' then some '"'
  else if c = '\\' then some '\\'
  else if c = '/' then some '/'
  else if c = 'n' then some '\n'
  else if c = 'r' then some '\r'
  else if c = 't' then some '\t'
  else if c = 'b' then some '\x08'
  else if c = 'f' then some '\x0c'
  else none

/-- The code units of a text up to its closing quote, and what comes after it. A character that
stands for itself is one unit, however large. -/
def unitsFrom : List Char → Option (List Nat × List Char)
  | [] => none
  | '"' :: rest => some ([], rest)
  | '\\' :: 'u' :: a :: b :: c :: d :: rest =>
    match unitOf? a b c d, unitsFrom rest with
    | some n, some (units, rest) => some (n :: units, rest)
    | _, _ => none
  | '\\' :: c :: rest =>
    match unescape? c, unitsFrom rest with
    | some c, some (units, rest) => some (c.toNat :: units, rest)
    | _, _ => none
  | c :: rest =>
    if ' ' ≤ c then (unitsFrom rest).map fun p => (c.toNat :: p.1, p.2) else none

/-- Whether a code unit is the first half of a surrogate pair. -/
def isHighSurrogate (n : Nat) : Bool :=
  0xD800 ≤ n && n ≤ 0xDBFF

/-- Whether a code unit is the second half of a surrogate pair. -/
def isLowSurrogate (n : Nat) : Bool :=
  0xDC00 ≤ n && n ≤ 0xDFFF

/-- The characters of code units. -/
def charactersOf? : List Nat → Option (List Char)
  | [] => some []
  | [n] => if isHighSurrogate n || isLowSurrogate n then none else some [Char.ofNat n]
  | n :: m :: rest =>
    if isHighSurrogate n then
      if isLowSurrogate m then
        (charactersOf? rest).map
          (Char.ofNat (0x10000 + (n - 0xD800) * 0x400 + (m - 0xDC00)) :: ·)
      else none
    else if isLowSurrogate n then none
    else (charactersOf? (m :: rest)).map (Char.ofNat n :: ·)

/-- The characters of a text up to its closing quote, and what comes after it. -/
def textFrom (s : List Char) : Option (String × List Char) :=
  match unitsFrom s with
  | none => none
  | some (units, rest) => (charactersOf? units).map fun cs => (String.ofList cs, rest)

/-- The digits at the start of a text, without zeros before others. -/
def naturalFrom (s : List Char) : Option (Nat × List Char) :=
  let ds := s.takeWhile Char.isDigit
  if ds.isEmpty || (ds.head? = some '0' && ds.length ≠ 1) then none
  else some (Decimal.value ds, s.dropWhile Char.isDigit)

/-- The integer at the start of a text. -/
def integerFrom : List Char → Option (Int × List Char)
  | '-' :: rest => (naturalFrom rest).map fun p => (-(p.1 : Int), p.2)
  | s => (naturalFrom s).map fun p => ((p.1 : Int), p.2)

mutual

/-- The value at the start of a text. The first argument bounds the steps. -/
def valueFrom : Nat → List Char → Option (Value × List Char)
  | 0, _ => none
  | steps + 1, s =>
    match skipSpace s with
    | 'n' :: 'u' :: 'l' :: 'l' :: rest => some (.null, rest)
    | 't' :: 'r' :: 'u' :: 'e' :: rest => some (.bool true, rest)
    | 'f' :: 'a' :: 'l' :: 's' :: 'e' :: rest => some (.bool false, rest)
    | '"' :: rest => (textFrom rest).map fun p => (.text p.1, p.2)
    | '[' :: rest =>
      match skipSpace rest with
      | ']' :: rest => some (.list [], rest)
      | rest => (itemsFrom steps rest).map fun p => (.list p.1, p.2)
    | '\x7b' :: rest =>
      match skipSpace rest with
      | '\x7d' :: rest => some (.object [], rest)
      | rest => (membersFrom steps rest).map fun p => (.object p.1, p.2)
    | s => (integerFrom s).map fun p => (.int p.1, p.2)

/-- The items at the start of a text, up to the bracket after them. -/
def itemsFrom : Nat → List Char → Option (List Value × List Char)
  | 0, _ => none
  | steps + 1, s =>
    match valueFrom steps s with
    | none => none
    | some (v, rest) =>
      match skipSpace rest with
      | ']' :: rest => some ([v], rest)
      | ',' :: rest => (itemsFrom steps rest).map fun p => (v :: p.1, p.2)
      | _ => none

/-- The members at the start of a text, up to the brace after them. -/
def membersFrom : Nat → List Char → Option (List (String × Value) × List Char)
  | 0, _ => none
  | steps + 1, s =>
    match skipSpace s with
    | '"' :: rest =>
      match textFrom rest with
      | none => none
      | some (name, rest) =>
        match skipSpace rest with
        | ':' :: rest =>
          match valueFrom steps rest with
          | none => none
          | some (v, rest) =>
            match skipSpace rest with
            | '\x7d' :: rest => some ([(name, v)], rest)
            | ',' :: rest =>
              (membersFrom steps rest).map fun p => ((name, v) :: p.1, p.2)
            | _ => none
        | _ => none
    | _ => none

end

/-- The value of a text. Two steps for each character are enough. -/
def parse? (s : List Char) : Option Value :=
  match valueFrom (2 * s.length + 2) s with
  | some (v, rest) => if (skipSpace rest).isEmpty then some v else none
  | none => none

end GuestImage.Json
