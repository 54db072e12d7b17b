import GuestImage.Json.Value
import GuestImage.Text.Decimal
import GuestImage.Text.Quoted

/-!
# JSON texts

A value is written in ASCII: any other character of a text is written by its code point in four
hexadecimal digits, or by the two halves of its surrogate pair. A layout says whether a value stands
on one line, with a space after each comma and colon, or on a page, with each item on a line of its
own. An integer with too many digits cannot be written, and then the value cannot (`encode?`).
-/

namespace GuestImage.Json

/-- How the parts of a value are laid out. -/
inductive Layout where
  /-- On one line. -/
  | line
  /-- Each item on a line of its own, indented by a number of spaces for each level. -/
  | page (spaces : Nat)
  deriving DecidableEq, Repr

/-- What stands before the first item, and after the last one, at a depth. -/
def Layout.gap : Layout → Nat → List Char
  | .line, _ => []
  | .page spaces, depth => '\n' :: List.replicate (spaces * depth) ' '

/-- What stands between two items at a depth. -/
def Layout.comma : Layout → Nat → List Char
  | .line, _ => [',', ' ']
  | layout, depth => ',' :: layout.gap depth

/-- A code unit in four hexadecimal digits. -/
def unit (n : Nat) : List Char :=
  '\\' :: 'u' :: Text.hexDigits 4 n

/-- A character of a text. -/
def escape (c : Char) : List Char :=
  if c = '"' then ['\\', '"']
  else if c = '\\' then ['\\', '\\']
  else if c = '\n' then ['\\', 'n']
  else if c = '\r' then ['\\', 'r']
  else if c = '\t' then ['\\', 't']
  else if c = '\x08' then ['\\', 'b']
  else if c = '\x0c' then ['\\', 'f']
  else if ' ' ≤ c && c ≤ '~' then [c]
  else if c.toNat ≤ 0xFFFF then unit c.toNat
  else
    unit (0xD800 + (c.toNat - 0x10000) / 0x400) ++ unit (0xDC00 + (c.toNat - 0x10000) % 0x400)

/-- A text between quotes. -/
def renderText (s : String) : List Char :=
  '"' :: s.toList.flatMap escape ++ ['"']

mutual

/-- The text of a value whose first character stands at a depth. -/
def render (layout : Layout) (depth : Nat) : Value → List Char
  | .null => ['n', 'u', 'l', 'l']
  | .bool true => ['t', 'r', 'u', 'e']
  | .bool false => ['f', 'a', 'l', 's', 'e']
  | .int n => Decimal.text n
  | .text s => renderText s
  | .list [] => ['[', ']']
  | .list (v :: rest) =>
    '[' :: (layout.gap (depth + 1) ++ render layout (depth + 1) v ++
      renderItems layout (depth + 1) rest ++ layout.gap depth ++ [']'])
  | .object [] => ['\x7b', '\x7d']
  | .object ((name, v) :: rest) =>
    '\x7b' :: (layout.gap (depth + 1) ++ renderText name ++ ':' :: ' ' ::
      (render layout (depth + 1) v ++
        renderMembers layout (depth + 1) rest ++ layout.gap depth ++ ['\x7d']))

/-- The items after the first one. -/
def renderItems (layout : Layout) (depth : Nat) : List Value → List Char
  | [] => []
  | v :: rest => layout.comma depth ++ render layout depth v ++ renderItems layout depth rest

/-- The members after the first one. -/
def renderMembers (layout : Layout) (depth : Nat) : List (String × Value) → List Char
  | [] => []
  | (name, v) :: rest =>
    layout.comma depth ++ renderText name ++ ':' :: ' ' ::
      (render layout depth v ++ renderMembers layout depth rest)

end

mutual

/-- Whether every integer in a value is short enough to be written. -/
def Value.writable : Value → Bool
  | .int n => (Decimal.text? n).isSome
  | .list items => writableItems items
  | .object members => writableMembers members
  | _ => true

/-- Whether every integer in the items is short enough to be written. -/
def writableItems : List Value → Bool
  | [] => true
  | v :: rest => v.writable && writableItems rest

/-- Whether every integer in the members is short enough to be written. -/
def writableMembers : List (String × Value) → Bool
  | [] => true
  | (_, v) :: rest => v.writable && writableMembers rest

end

/-- The text of a value with the members of its objects in the order of their names. -/
def encode? (layout : Layout) (v : Value) : Option (List Char) :=
  if v.writable then some (render layout 0 v.sorted) else none

end GuestImage.Json
