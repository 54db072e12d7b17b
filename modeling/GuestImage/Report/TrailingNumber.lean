import GuestImage.Failure.Basic
import GuestImage.Text.Blank
import GuestImage.Text.Punctuation

/-!
# The number at the end of a tool's report

A tool says a number in the language of its user, but says it last: the number is the last run of
characters between blank and punctuation characters, so neither the words before it nor a full stop
after it matter.
-/

namespace GuestImage.TrailingNumber

/-- Whether a character stands between tokens. -/
def isSeparator (c : Char) : Bool :=
  Text.isBlank c || Text.isPunctuation c

/-- The last token of a text, or nothing where there is none. -/
def lastToken (s : List Char) : List Char :=
  ((s.reverse.dropWhile isSeparator).takeWhile (!isSeparator ·)).reverse

/-- How much of a text that cannot be read is shown. -/
def shownLength : Nat := 200

/-- The failure of a text without tokens. -/
def noTokens (s : List Char) : Failure :=
  .ofStage .parse "Tool output contains no tokens."
    (some "Check that the tool ran and produced the expected report.")
    [("operation", "parse"), ("output", String.ofList (s.take shownLength))]

/-- The failure of a text whose last token is no number. -/
def noNumber (s : List Char) : Failure :=
  .ofStage .parse
    ("Last token " ++ Text.quoted (String.ofList (lastToken s)) ++
      " of tool output is not an integer.")
    (some "The tool's output format may differ for this version or locale.")
    [("operation", "parse"), ("output", String.ofList (s.drop (s.length - shownLength)))]

/-- The number at the end of a text. One with too many digits is no failure of the stage. -/
def read (text : String) : Except Failure Nat :=
  let s := text.toList
  if (lastToken s).isEmpty then .error (noTokens s)
  else if !(lastToken s).all Char.isDigit then .error (noNumber s)
  else
    match Decimal.value? (lastToken s) with
    | some n => .ok n
    | none => .error ⟨.badValue (Decimal.tooLongToRead (lastToken s).length), []⟩

end GuestImage.TrailingNumber
