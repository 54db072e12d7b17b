import GuestImage.Text.Blank

/-!
# Lines of a text

A line ends at a line feed, a vertical tab, a form feed, a carriage return, one of the separators
U+001C to U+001E, the next-line control U+0085, or one of the separators U+2028 and U+2029. A
carriage return and the line feed after it are one line end. What follows the last line end is a
line only if it holds a character.

Where a text comes out of a program, only carriage returns are line ends besides the line feed:
`unifyLineFeeds` writes each of them, with the line feed after it, as a line feed.
-/

namespace GuestImage.Text

/-- Whether a character ends a line. -/
def isLineEnd (c : Char) : Bool :=
  c = '\n' || c = '\x0b' || c = '\x0c' || c = '\r' || c = '\x1c' || c = '\x1d' || c = '\x1e' ||
    c = '\u0085' || c = '\u2028' || c = '\u2029'

/-- The lines of a text that continues a line whose characters so far are `line`, last one
first. -/
def linesFrom (line : List Char) : List Char → List (List Char)
  | [] => if line.isEmpty then [] else [line.reverse]
  | '\r' :: '\n' :: rest => line.reverse :: linesFrom [] rest
  | c :: rest =>
    if isLineEnd c then line.reverse :: linesFrom [] rest else linesFrom (c :: line) rest

/-- The lines of a text, without their ends. -/
def lines (s : String) : List String :=
  (linesFrom [] s.toList).map String.ofList

/-- Carriage returns, alone or before a line feed, become line feeds. -/
def unifyLineFeeds : List Char → List Char
  | [] => []
  | '\r' :: '\n' :: rest => '\n' :: unifyLineFeeds rest
  | c :: rest => (if c = '\r' then '\n' else c) :: unifyLineFeeds rest

theorem not_mem_unifyLineFeeds (s : List Char) : '\r' ∉ unifyLineFeeds s := by
  fun_induction unifyLineFeeds s with
  | case1 => simp
  | case2 rest ih => simp [ih]
  | case3 c rest _ ih =>
    by_cases h : c = '\r'
    · simp [h, ih]
    · simp [h, ih, Ne.symm h]

end GuestImage.Text
