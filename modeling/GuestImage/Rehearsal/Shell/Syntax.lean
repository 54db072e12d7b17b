/-!
# The language of the shell

A script is made of commands, a command of words, and a word of pieces that are put together when
it is run. What was quoted in a piece stays as it is: it is not split, and its signs are no
patterns.
-/

namespace GuestImage.Rehearsal.Shell

/-- What a redirection does with the file it names. -/
inductive FileUse where
  | read
  | write
  | append
  | readWrite
  deriving DecidableEq, Repr

/-- The end of a value that a pattern is cut off from. -/
inductive Side where
  | start
  | finish
  deriving DecidableEq, Repr

mutual

/-- A piece of a word. -/
inductive Piece where
  /-- Text as it is. -/
  | text (quoted : Bool) (s : String)
  /-- The value of a parameter, put to some use. -/
  | parameter (quoted : Bool) (name : String) (use : ParameterUse)
  /-- What a script writes. -/
  | output (quoted : Bool) (script : Command)
  /-- The value of an arithmetic expression. -/
  | value (expression : List Piece)

/-- What is made of the value of a parameter. Most uses look whether it has one, and `orNull` says
that an empty one is as good as none. -/
inductive ParameterUse where
  | plain
  | length
  | otherwise (orNull : Bool) (word : List Piece)
  | assign (orNull : Bool) (word : List Piece)
  | insist (orNull : Bool) (word : List Piece)
  | instead (orNull : Bool) (word : List Piece)
  | cut (side : Side) (longest : Bool) (pattern : List Piece)
  /-- A use that has no meaning. -/
  | unknown

/-- A redirection of a descriptor. -/
inductive Redirection where
  | file (descriptor : Nat) (use : FileUse) (name : List Piece)
  /-- To what another descriptor leads to, or to nothing. -/
  | duplicate (descriptor : Nat) (other : List Piece)
  /-- From the document of a number in the script. -/
  | document (descriptor : Nat) (number : Nat)

/-- A command. Some know the line they are on. -/
inductive Command where
  | nothing
  | simple (line : Nat) (assignments : List (String × List Piece)) (words : List (List Piece))
      (redirections : List Redirection)
  | pipeline (stages : List Command)
  | negation (body : Command)
  /-- The second one only if the first one succeeds. -/
  | both (first second : Command)
  /-- The second one only if the first one fails. -/
  | either (first second : Command)
  | sequence (first second : Command)
  | background (body : Command)
  | subshell (line : Nat) (body : Command) (redirections : List Redirection)
  | redirected (line : Nat) (body : Command) (redirections : List Redirection)
  | conditional (test yes no : Command)
  /-- A loop that lasts while the test ends in the given way. -/
  | loop (success : Bool) (test body : Command)
  /-- A loop over words, or over the arguments. -/
  | each (line : Nat) (name : String) (words : Option (List (List Piece))) (body : Command)
  | choice (line : Nat) (subject : List Piece) (cases : List (List (List Piece) × Command))
  | define (line : Nat) (name : String) (body : Command)

end

/-- A word. -/
abbrev Word := List Piece

instance : Inhabited Command := ⟨.nothing⟩

end GuestImage.Rehearsal.Shell
