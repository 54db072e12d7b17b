/-!
# Occurrences in a text

`occursIn` decides whether a text holds another one in one piece (`occursIn_iff`), and
`lowerAscii` makes the search blind to the case of ASCII letters.
-/

namespace GuestImage.Text

/-- Whether a text occurs in another one. -/
def occursIn (pattern : List Char) : List Char → Bool
  | [] => pattern.isEmpty
  | c :: rest => pattern.isPrefixOf (c :: rest) || occursIn pattern rest

theorem occursIn_iff {pattern : List Char} :
    ∀ {s : List Char}, occursIn pattern s = true ↔ pattern <:+: s
  | [] => by simp [occursIn]
  | c :: rest => by
    simp only [occursIn, Bool.or_eq_true, List.isPrefixOf_iff_prefix, occursIn_iff (s := rest),
      List.infix_cons_iff]

/-- A text with the lower case of its ASCII letters. -/
def lowerAscii (s : List Char) : List Char :=
  s.map Char.toLower

end GuestImage.Text
