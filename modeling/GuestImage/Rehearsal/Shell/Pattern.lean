/-!
# Patterns

A pattern matches a text as a whole. It is made of characters, some of which are quoted and stand
for themselves; of the others a star matches any text, a question mark any character, and brackets
one of some characters.
-/

namespace GuestImage.Rehearsal.Shell

/-- What one character has to be. -/
inductive CharClass where
  | between (low high : Char)
  | named (holds : Char → Bool)

/-- Whether a character is in a class. -/
def CharClass.holds (c : Char) : CharClass → Bool
  | .between low high => low ≤ c && c ≤ high
  | .named p => p c

/-- A part of a pattern. -/
inductive PatternPart where
  | exactly (c : Char)
  | anyText
  | anyChar
  | oneOf (inverted : Bool) (classes : List CharClass)

/-- The characters of a pattern, and whether they are quoted. -/
abbrev Marked := List (Bool × Char)

/-- Unquoted or quoted characters of a text. -/
def marked (quoted : Bool) (s : String) : Marked :=
  s.toList.map (quoted, ·)

/-- The classes that have names. -/
def namedClass? (name : String) : Option (Char → Bool) :=
  match name with
  | "alpha" => some Char.isAlpha
  | "digit" => some Char.isDigit
  | "alnum" => some Char.isAlphanum
  | "lower" => some Char.isLower
  | "upper" => some Char.isUpper
  | "space" => some fun c => [' ', '\t', '\n', '\x0b', '\x0c', '\r'].contains c
  | "blank" => some fun c => c = ' ' || c = '\t'
  | "punct" => some fun c => '!' ≤ c && c ≤ '~' && !c.isAlphanum
  | "xdigit" => some fun c => c.isDigit || 'a' ≤ c && c ≤ 'f' || 'A' ≤ c && c ≤ 'F'
  | "print" => some fun c => ' ' ≤ c && c ≤ '~'
  | "graph" => some fun c => '!' ≤ c && c ≤ '~'
  | "cntrl" => some fun c => c < ' ' || c = '\x7f'
  | _ => none

/-- The classes up to a closing bracket, which is taken as one of them in the first place, and what
comes after it. -/
def bracketed : (fuel : Nat) → (first : Bool) → Marked → Option (List CharClass × Marked)
  | 0, _, _ => none
  | _ + 1, _, [] => none
  | fuel + 1, first, (quoted, c) :: rest =>
    if c = ']' && !quoted && !first then some ([], rest)
    else
      let name := (rest.drop 1).takeWhile fun x => x.2 ≠ ':'
      match rest, rest.drop (name.length + 1) with
      | (_, ':') :: _, (_, ':') :: (_, ']') :: more =>
        match if c = '[' then namedClass? (String.ofList (name.map Prod.snd)) else none with
        | some p => (bracketed fuel false more).map fun r => (.named p :: r.1, r.2)
        | none => (bracketed fuel false rest).map fun r => (.between c c :: r.1, r.2)
      | (false, '-') :: (q, d) :: more, _ =>
        if d = ']' && !q then (bracketed fuel false rest).map fun r => (.between c c :: r.1, r.2)
        else (bracketed fuel false more).map fun r => (.between c d :: r.1, r.2)
      | _, _ => (bracketed fuel false rest).map fun r => (.between c c :: r.1, r.2)

/-- The parts of a pattern. A bracket that is not closed stands for itself. -/
def patternParts : (fuel : Nat) → Marked → List PatternPart
  | 0, _ => []
  | _ + 1, [] => []
  | fuel + 1, (true, c) :: rest => .exactly c :: patternParts fuel rest
  | fuel + 1, (false, '*') :: rest => .anyText :: patternParts fuel rest
  | fuel + 1, (false, '?') :: rest => .anyChar :: patternParts fuel rest
  | fuel + 1, (false, '[') :: rest =>
    let (inverted, inner) := match rest with
      | (false, '!') :: more => (true, more)
      | _ => (false, rest)
    match bracketed (inner.length + 1) true inner with
    | some (classes, more) => .oneOf inverted classes :: patternParts fuel more
    | none => .exactly '[' :: patternParts fuel rest
  | fuel + 1, (false, '\\') :: (_, c) :: rest => .exactly c :: patternParts fuel rest
  | fuel + 1, (false, c) :: rest => .exactly c :: patternParts fuel rest

/-- Whether parts of a pattern match a text. -/
def matchesParts : List PatternPart → List Char → Bool
  | [], cs => cs.isEmpty
  | .anyText :: parts, cs =>
    (List.range (cs.length + 1)).any fun n => matchesParts parts (cs.drop n)
  | .anyChar :: parts, _ :: cs => matchesParts parts cs
  | .exactly c :: parts, d :: cs => c = d && matchesParts parts cs
  | .oneOf inverted classes :: parts, c :: cs =>
    classes.any (·.holds c) != inverted && matchesParts parts cs
  | _ :: _, [] => false

/-- Whether a pattern matches a text. -/
def matchesPattern (pattern : Marked) (s : List Char) : Bool :=
  matchesParts (patternParts (pattern.length + 1) pattern) s

/-- A text without the shortest or longest start that a pattern matches. -/
def cutStart (pattern : Marked) (longest : Bool) (s : String) : String :=
  let cs := s.toList
  let lengths := List.range (cs.length + 1)
  let lengths := if longest then lengths.reverse else lengths
  match lengths.find? fun n => matchesPattern pattern (cs.take n) with
  | some n => String.ofList (cs.drop n)
  | none => s

/-- A text without the shortest or longest end that a pattern matches. -/
def cutEnd (pattern : Marked) (longest : Bool) (s : String) : String :=
  let cs := s.toList
  let lengths := List.range (cs.length + 1)
  let lengths := if longest then lengths else lengths.reverse
  match lengths.find? fun n => matchesPattern pattern (cs.drop n) with
  | some n => String.ofList (cs.take n)
  | none => s

end GuestImage.Rehearsal.Shell
