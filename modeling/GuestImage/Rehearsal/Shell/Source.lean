import GuestImage.Rehearsal.Shell.Octets
import GuestImage.Rehearsal.Shell.Syntax

/-!
# The text of a script while it is read

A script is read from front to back. A token that was read may be put back once. The text of a
document comes after the line that asks for it, so a document is known by a number until the end of
that line is read.
-/

namespace GuestImage.Rehearsal.Shell

/-- A token of a script. -/
inductive Token where
  | finish
  | newline
  | semicolon
  | ampersand
  | andThen
  | orElse
  | bar
  | opening
  | closing
  | caseEnd
  | toFile (descriptor : Nat) (use : FileUse)
  | toDescriptor (descriptor : Nat)
  | toDocument (descriptor : Nat) (dropsTabs : Bool)
  | word (w : Word)
  | keyword (k : String)

/-- What a token is called in a complaint. -/
def Token.name : Token → String
  | .finish => "end of file"
  | .newline => "newline"
  | .semicolon => "\";\""
  | .ampersand => "\"&\""
  | .andThen => "\"&&\""
  | .orElse => "\"||\""
  | .bar => "\"|\""
  | .opening => "\"(\""
  | .closing => "\")\""
  | .caseEnd => "\";;\""
  | .toFile .. | .toDescriptor .. | .toDocument .. => "redirection"
  | .word .. => "word"
  | .keyword k => "\"" ++ k ++ "\""

/-- Words that have a meaning of their own where a command may start. -/
def keywords : List String :=
  ["!", "case", "do", "done", "elif", "else", "esac", "fi", "for", "if", "in", "then", "until",
    "while", "\x7b", "\x7d"]

/-- Words that are done by the shell itself whatever functions there are, and end it by their
failures. -/
def specialWords : List String :=
  [".", ":", "break", "continue", "eval", "exec", "exit", "export", "local", "readonly", "return",
    "set", "shift", "times", "trap", "unset"]

/-- A document whose text is still to come. -/
structure Awaited where
  number : Nat
  delimiter : String
  dropsTabs : Bool
  /-- Whether the text stays as it is. -/
  quoted : Bool
  deriving DecidableEq, Repr

/-- A script while it is read. -/
structure Source where
  rest : List Char
  line : Nat := 1
  held : Option Token := none
  awaited : List Awaited := []
  /-- The texts of the documents that were asked for, which are empty until they were read. -/
  documents : List Word := []

/-- A complaint about a script. -/
structure Misread where
  line : Nat
  message : String
  deriving DecidableEq, Repr

/-- Steps that read a script. -/
abbrev Parse := ExceptT Misread (StateM Source)

namespace Parse

/-- Complains about the script. -/
def complain {α : Type} (message : String) : Parse α := do
  throw ⟨(← get).line, message⟩

/-- Goes on after characters, over as many ends of lines. -/
def advanceTo (rest : List Char) (lines : Nat) : Parse Unit :=
  modify fun s => { s with rest, line := s.line + lines }

/-- Puts a token back. -/
def putBack (t : Token) : Parse Unit :=
  modify fun s => { s with held := some t }

/-- Complains about a token where another one would have to be. -/
def expected {α : Type} (found : Token) (wanted : Option Token) : Parse α :=
  complain (found.name ++ " unexpected" ++
    match wanted with
    | none => ""
    | some t => " (expecting " ++ t.name ++ ")")

/-- Reads another text with the same documents, from a line on. -/
def inText {α : Type} (line : Nat) (text : List Char) (act : Parse α) : Parse α := do
  let s ← get
  set { s with rest := text, line, held := none, awaited := [] }
  let a ← act
  modify fun inner => { s with documents := inner.documents }
  return a

end Parse

/-- The number of ends of lines among characters. -/
def countLines (cs : List Char) : Nat :=
  cs.countP (· = '\n')

end GuestImage.Rehearsal.Shell
