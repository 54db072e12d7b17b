import GuestImage.Text.Printable

/-!
# Quoted texts

The quoted form of a text shows it on one line between quotes: single quotes, or double quotes when
the text holds a single quote and no double quote. The chosen quote and the backslash are written
after a backslash, three control characters by a letter, and every other character that is not
printable by its code point in two, four or eight hexadecimal digits.
-/

namespace GuestImage.Text

/-- The last `width` hexadecimal digits of `n`, in lower case. -/
def hexDigits : (width n : Nat) → List Char
  | 0, _ => []
  | width + 1, n => hexDigits width (n / 16) ++ [Nat.digitChar (n % 16)]

@[simp]
theorem length_hexDigits : ∀ width n : Nat, (hexDigits width n).length = width
  | 0, _ => rfl
  | width + 1, n => by simp [hexDigits, length_hexDigits width]

namespace Quoted

/-- The quote a text is written between. -/
def quoteOf (s : List Char) : Char :=
  if s.contains '\x27' && !s.contains '"' then '"' else '\x27'

/-- A character by its code point. -/
def codePoint (c : Char) : List Char :=
  if c.toNat ≤ 0xFF then '\\' :: 'x' :: hexDigits 2 c.toNat
  else if c.toNat ≤ 0xFFFF then '\\' :: 'u' :: hexDigits 4 c.toNat
  else '\\' :: 'U' :: hexDigits 8 c.toNat

/-- One character of a text between quotes `q`. -/
def character (q c : Char) : List Char :=
  if c = q || c = '\\' then ['\\', c]
  else if c = '\t' then ['\\', 't']
  else if c = '\n' then ['\\', 'n']
  else if c = '\r' then ['\\', 'r']
  else if isPrintable c then [c]
  else codePoint c

/-- A text between quotes. -/
def encode (s : List Char) : List Char :=
  quoteOf s :: s.flatMap (character (quoteOf s)) ++ [quoteOf s]

end Quoted

/-- The quoted form of a text. -/
def quoted (s : String) : String :=
  String.ofList (Quoted.encode s.toList)

end GuestImage.Text
