/-!
# Decimal texts of integers

An integer is written in decimal digits without leading zeros, after a minus sign if it is
negative. Conversion in either direction is refused for more than `maxDigits` digits, a minus sign
not counted: its cost grows faster than the length of the text.
-/

namespace GuestImage.Decimal

/-- The most digits that are converted. -/
def maxDigits : Nat := 4300

/-- The digits of a natural number. -/
def digits (n : Nat) : List Char :=
  Nat.toDigits 10 n

/-- The natural number that digits stand for. -/
def value (ds : List Char) : Nat :=
  Nat.ofDigitChars 10 ds 0

@[simp]
theorem value_digits (n : Nat) : value (digits n) = n :=
  Nat.ofDigitChars_toDigits (by omega) (by omega)

/-- The text of an integer, however long. -/
def text (z : Int) : List Char :=
  if z < 0 then '-' :: digits z.natAbs else digits z.natAbs

/-- The text of an integer, or nothing where it has too many digits. -/
def text? (z : Int) : Option String :=
  if (digits z.natAbs).length ≤ maxDigits then some (String.ofList (text z)) else none

/-- The number digits stand for, or nothing where there are too many. -/
def value? (ds : List Char) : Option Nat :=
  if ds.length ≤ maxDigits then some (value ds) else none

/-- What is said of an integer with too many digits to write. -/
def tooLongToWrite : String :=
  "Exceeds the limit (4300 digits) for integer string conversion; " ++
    "use sys.set_int_max_str_digits() to increase the limit"

/-- What is said of `n` digits, too many to read. -/
def tooLongToRead (n : Nat) : String :=
  "Exceeds the limit (4300 digits) for integer string conversion: value has " ++
    String.ofList (digits n) ++ " digits; use sys.set_int_max_str_digits() to increase the limit"

theorem isDigit_of_mem_digits {c : Char} {n : Nat} (h : c ∈ digits n) : c.isDigit = true :=
  Nat.isDigit_of_mem_toDigits (by omega) (by omega) h

theorem digits_ne_nil (n : Nat) : digits n ≠ [] :=
  List.ne_nil_of_length_pos Nat.length_toDigits_pos

end GuestImage.Decimal
