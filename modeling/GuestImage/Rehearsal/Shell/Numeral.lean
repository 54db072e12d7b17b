import GuestImage.Rehearsal.Shell.Arithmetic

/-!
# Numbers as they are printed

A number is printed by a directive: its letter, its marks, the least width, and a precision. A real
number is the nearest one to what is written that has 53 binary digits, and it is printed from its
exact value; a tie goes to the even digit.
-/

namespace GuestImage.Rehearsal.Shell

/-- A directive of a format. -/
structure Directive where
  letter : Char
  marks : List Char := []
  width : Nat := 0
  precision : Option Nat := none
  deriving DecidableEq, Repr

namespace Directive

/-- Whether a directive has a mark. -/
def has (d : Directive) (mark : Char) : Bool :=
  d.marks.contains mark

/-- Fills a text up to the width. -/
def fill (d : Directive) (s : String) : String :=
  let gap := String.ofList (List.replicate (d.width - s.length) ' ')
  if d.has '-' then s ++ gap else gap ++ s

/-- Fills digits up to the width, after what stands before them. -/
def fillDigits (d : Directive) (zeros : Bool) (before digits : String) : String :=
  if zeros && d.has '0' && !d.has '-' then
    before ++ String.ofList (List.replicate (d.width - before.length - digits.length) '0') ++ digits
  else d.fill (before ++ digits)

/-- What stands before the digits of a number. -/
def sign (d : Directive) (negative : Bool) : String :=
  if negative then "-" else if d.has '+' then "+" else if d.has ' ' then " " else ""

/-- Digits, at least as many as the precision says; none for zero where it says none. -/
def padded (d : Directive) (digits : String) : String :=
  let digits := if d.precision = some 0 && digits = "0" then "" else digits
  String.ofList (List.replicate (d.precision.getD 1 - digits.length) '0') ++ digits

/-- A signed number. -/
def signed (d : Directive) (n : Int) : String :=
  d.fillDigits d.precision.isNone (d.sign (decide (n < 0))) (d.padded (toString n.natAbs))

/-- An unsigned number. -/
def unsigned (d : Directive) (n : Nat) : String :=
  let upper (s : String) : String := String.ofList (s.toList.map Char.toUpper)
  let hex := String.ofList (Nat.toDigits 16 n)
  match d.letter with
  | 'o' =>
    let digits := d.padded (String.ofList (Nat.toDigits 8 n))
    let digits := if d.has '#' && digits.toList.head? ≠ some '0' then "0" ++ digits else digits
    d.fillDigits d.precision.isNone "" digits
  | 'x' => d.fillDigits d.precision.isNone (if d.has '#' && n ≠ 0 then "0x" else "") (d.padded hex)
  | 'X' =>
    d.fillDigits d.precision.isNone (if d.has '#' && n ≠ 0 then "0X" else "") (d.padded (upper hex))
  | _ => d.fillDigits d.precision.isNone "" (d.padded (toString n))

end Directive

/-- A real number, which is a quotient, or none. -/
inductive Real where
  | finite (negative : Bool) (numerator denominator : Nat)
  | infinite (negative : Bool)
  | notANumber
  deriving DecidableEq, Repr

namespace Real

/-- A power of ten. -/
def tens (n : Nat) : Nat :=
  Nat.pow 10 n

/-- A quotient rounded to a whole number, a tie to the even one. -/
def roundDiv (n d : Nat) : Nat :=
  let q := n / d
  let twice := 2 * (n % d)
  if twice < d then q else if d < twice then q + 1 else if q % 2 = 0 then q else q + 1

/-- The greatest power of two, from a start downwards, that is no more than a quotient; negative
powers included. -/
def exponentFrom (n d : Nat) : (fuel : Nat) → Int → Int
  | 0, e => e
  | fuel + 1, e =>
    let fits := if 0 ≤ e then d <<< e.toNat ≤ n else d ≤ n <<< (-e).toNat
    if fits then e else exponentFrom n d fuel (e - 1)

/-- How many binary digits numbers have, the exponent of the least one, and that of the first power
of two which is too large. -/
structure Grid where
  bits : Nat
  least : Int
  tooLarge : Nat
  deriving DecidableEq, Repr

/-- Numbers of 64 bits. -/
def Grid.double : Grid := ⟨53, -1074, 1024⟩

/-- Numbers of 80 bits. -/
def Grid.extended : Grid := ⟨64, -16445, 16384⟩

/-- The nearest number of a grid, and whether the grid is too coarse there: the quotient is too
large, or so small that some of its digits are lost. -/
def nearest (g : Grid) (negative : Bool) (n d : Nat) : Real × Bool :=
  if n = 0 then (.finite negative 0 1, false)
  else
    let start : Int := (Nat.log2 n : Int) - Nat.log2 d + 1
    let e := max (exponentFrom n d 4 start - (g.bits - 1)) g.least
    let m := if 0 ≤ e then roundDiv n (d <<< e.toNat) else roundDiv (n <<< (-e).toNat) d
    if 0 ≤ e && 1 <<< g.tooLarge ≤ m <<< e.toNat then (.infinite negative, true)
    else if 0 ≤ e then (.finite negative (m <<< e.toNat) 1, false)
    else
      let isCoarse := m < 1 <<< (g.bits - 1) && m * d ≠ n <<< (-e).toNat
      (.finite negative m (1 <<< (-e).toNat), isCoarse)

/-- The decimal number that a text starts with, and how many characters it has. -/
def readDecimal (cs : List Char) : Option (Nat × Nat × Nat) :=
  let whole := cs.takeWhile Char.isDigit
  let rest := cs.drop whole.length
  let (point, part) := match rest with
    | '.' :: more => (1, more.takeWhile Char.isDigit)
    | _ => (0, [])
  if whole.isEmpty && part.isEmpty then none
  else
    let used := whole.length + point + part.length
    let n := Nat.ofDigitChars 10 (whole ++ part) 0
    let d := tens part.length
    match cs.drop used with
    | e :: more =>
      let (down, digits, mark) := match more with
        | '-' :: ds => (true, ds.takeWhile Char.isDigit, 1)
        | '+' :: ds => (false, ds.takeWhile Char.isDigit, 1)
        | ds => (false, ds.takeWhile Char.isDigit, 0)
      if (e = 'e' || e = 'E') && !digits.isEmpty then
        let k := min (Nat.ofDigitChars 10 digits 0) 5000
        let used := used + 1 + mark + digits.length
        if down then some (n, d * tens k, used) else some (n * tens k, d, used)
      else some (n, d, used)
    | [] => some (n, d, used)

/-- The number in sixteen digits that a text starts with after its mark, with a power of two after
it, and how many characters it has with its mark. -/
def readHexadecimal (cs : List Char) : Option (Nat × Nat × Nat) :=
  let isDigit (c : Char) : Bool := digitOf c < 16
  let whole := cs.takeWhile isDigit
  let rest := cs.drop whole.length
  let (point, part) := match rest with
    | '.' :: more => (1, more.takeWhile isDigit)
    | _ => (0, [])
  if whole.isEmpty && part.isEmpty then none
  else
    let used := whole.length + point + part.length
    let n := (leadingDigits 16 (whole ++ part)).1
    let d := 1 <<< (4 * part.length)
    let (k, down, mark) := match cs.drop used with
      | e :: more =>
        let (down, digits, mark) := match more with
          | '-' :: ds => (true, ds.takeWhile Char.isDigit, 1)
          | '+' :: ds => (false, ds.takeWhile Char.isDigit, 1)
          | ds => (false, ds.takeWhile Char.isDigit, 0)
        if (e = 'p' || e = 'P') && !digits.isEmpty then
          (min (Nat.ofDigitChars 10 digits 0) 40000, down, 1 + mark + digits.length)
        else (0, false, 0)
      | [] => (0, false, 0)
    let used := 2 + used + mark
    if down then some (n, d <<< k, used) else some (n <<< k, d, used)

/-- The real number that a text starts with, whether it is out of range, and what comes after
it. -/
def read (g : Grid) (cs : List Char) : Option (Real × Bool × List Char) :=
  let cs := cs.dropWhile fun c => c = ' ' || c = '\t' || c = '\n'
  let (negative, cs) := match cs with
    | '-' :: rest => (true, rest)
    | '+' :: rest => (false, rest)
    | _ => (false, cs)
  let lower := (cs.take 8).map Char.toLower
  if "infinity".toList.isPrefixOf lower then
    some (.infinite negative, false, cs.drop 8)
  else if "inf".toList.isPrefixOf lower then
    some (.infinite negative, false, cs.drop 3)
  else if "nan".toList.isPrefixOf lower then some (.notANumber, false, cs.drop 3)
  else
    let marked := ["0x".toList, "0X".toList].any fun mark => mark.isPrefixOf cs
    let found := if marked then readHexadecimal (cs.drop 2) else none
    (found <|> readDecimal cs).map fun (n, d, used) =>
      let (x, isLost) := nearest g negative n d
      (x, isLost, cs.drop used)

/-- A number with some places after the point. -/
def fixed (n d places : Nat) (point : Bool) : String :=
  let digits := toString (roundDiv (n * tens places) d)
  let digits := String.ofList (List.replicate (places + 1 - digits.length) '0') ++ digits
  let cs := digits.toList
  String.ofList (cs.take (cs.length - places)) ++
    if places = 0 then if point then "." else ""
    else "." ++ String.ofList (cs.drop (cs.length - places))

/-- The decimal exponent of a number, from a start downwards. -/
def decimalExponentFrom (n d : Nat) : (fuel : Nat) → Int → Int
  | 0, e => e
  | fuel + 1, e =>
    let fits := if 0 ≤ e then d * tens e.toNat ≤ n else d ≤ n * tens (-e).toNat
    if fits then e else decimalExponentFrom n d fuel (e - 1)

/-- The digits of a number, one before the point and some after it, and its exponent. -/
def scientificDigits (n d places : Nat) : Nat × Int :=
  if n = 0 then (0, 0)
  else
    let e := decimalExponentFrom n d 2000 ((Nat.log2 n : Int) / 3 - Nat.log2 d / 4 + 2)
    let scale : Int := places - e
    let m := if 0 ≤ scale then roundDiv (n * tens scale.toNat) d
      else roundDiv n (d * tens (-scale).toNat)
    if tens (places + 1) ≤ m then (m / 10, e + 1) else (m, e)

/-- A number with an exponent. -/
def scientific (n d places : Nat) (point : Bool) : String :=
  let (m, e) := scientificDigits n d places
  let digits := toString e.natAbs
  fixed m (tens places) places point ++ "e" ++ (if e < 0 then "-" else "+") ++
    (if digits.length < 2 then "0" ++ digits else digits)

/-- A number in sixteen digits, and its binary exponent. The digit before the point holds the binary
digits that are left over by those after it. -/
def hexadecimal (g : Grid) (n d : Nat) (places : Option Nat) (point : Bool) : String :=
  let all := (g.bits - 1) / 4
  let e : Int := (Nat.log2 n : Int) - Nat.log2 d - (g.bits - 1)
  let m := if n = 0 then 0 else if 0 ≤ e then n / (d <<< e.toNat) else (n <<< (-e).toNat) / d
  let count := places.getD all
  let m := if count < all then roundDiv m (1 <<< (4 * (all - count)))
    else m <<< (4 * (count - all))
  let carries := 1 <<< (4 * (count + 1)) ≤ m
  let m := if carries then m / 16 else m
  let exponent : Int := if n = 0 then 0 else e + 4 * all + if carries then 4 else 0
  let digits := Nat.toDigits 16 m
  let digits := List.replicate (count + 1 - digits.length) '0' ++ digits
  let whole := digits.take (digits.length - count)
  let part := digits.drop (digits.length - count)
  let part := if places.isNone then (part.reverse.dropWhile (· = '0')).reverse else part
  String.ofList whole ++ (if part.isEmpty && !point then "" else ".") ++
    String.ofList part ++ "p" ++ (if exponent < 0 then "-" else "+") ++ toString exponent.natAbs

/-- Digits after a point without the zeros at their end, and without the point if none is left. -/
def dropZeros (s : String) : String :=
  if s.toList.contains '.' then
    let cs := s.toList.reverse.dropWhile (· = '0')
    String.ofList (match cs with
      | '.' :: rest => rest.reverse
      | cs => cs.reverse)
  else s

/-- A number in whichever way is shorter. -/
def general (n d places : Nat) (keepsZeros : Bool) : String :=
  let p := max places 1
  let (_, e) := scientificDigits n d (p - 1)
  if e < -4 || (p : Int) ≤ e then
    let s := scientific n d (p - 1) keepsZeros
    if keepsZeros then s
    else
      let cs := s.toList
      dropZeros (String.ofList (cs.takeWhile (· ≠ 'e'))) ++ String.ofList (cs.dropWhile (· ≠ 'e'))
  else
    let s := fixed n d ((p : Int) - 1 - e).toNat keepsZeros
    if keepsZeros then s else dropZeros s

end Real

/-- A real number as a directive has it printed. -/
def Directive.real (g : Real.Grid) (d : Directive) (x : Real) : String :=
  let cased (s : String) : String :=
    if d.letter.isUpper then String.ofList (s.toList.map Char.toUpper) else s
  match x with
  | .infinite negative => d.fillDigits false (d.sign negative) (cased "inf")
  | .notANumber => d.fillDigits false (d.sign false) (cased "nan")
  | .finite negative n m =>
    let places := d.precision.getD 6
    let body := match d.letter.toLower with
      | 'a' => Real.hexadecimal g n m d.precision (d.has '#')
      | 'e' => Real.scientific n m places (d.has '#')
      | 'g' => Real.general n m places (d.has '#')
      | _ => Real.fixed n m places (d.has '#')
    let mark := if d.letter.toLower = 'a' then cased "0x" else ""
    d.fillDigits true (d.sign negative ++ mark) (cased body)

end GuestImage.Rehearsal.Shell
