import GuestImage.Rehearsal.Shell.WordReader

/-!
# The grammar of scripts

A script is read one line of commands at a time, so that what is on a line is run before the next
one is looked at. Commands are nested; `parse` bounds how deep, by a number that the length of a
script always leaves room in.
-/

namespace GuestImage.Rehearsal.Shell

/-- What is read: a line of commands, commands up to a word that ends them, the same where there may
be none, or one command. -/
inductive Phrase where
  | line
  | body
  | optionalBody
  | command
  deriving DecidableEq, Repr

/-- The text of a word that is one piece of unquoted text. -/
def Word.plain? : Word → Option String
  | [.text false s] => some s
  | _ => none

/-- The text of a word with its quotes removed. -/
def Word.literal (w : Word) : String :=
  String.join (w.map fun
    | .text _ s => s
    | _ => "")

/-- Whether the backslashes at the end of a line quote the end of the line. -/
def joinsNext (line : List Char) : Bool :=
  (line.reverse.takeWhile (· = '\\')).length % 2 = 1

/-- The lines up to one that is the delimiter, whether there is one, and what comes after it. A line
that is `joined` to the one before is not the delimiter. -/
def documentText (a : Awaited) :
    (fuel : Nat) → (joined : Bool) → List Char → List Char × Bool × List Char
  | 0, _, cs => (cs, false, [])
  | _ + 1, _, [] => ([], false, [])
  | fuel + 1, joined, cs =>
    let cs := if a.dropsTabs && !joined then cs.dropWhile (· = '\t') else cs
    let line := cs.takeWhile (· ≠ '\n')
    let rest := cs.dropWhile (· ≠ '\n')
    if !joined && String.ofList line = a.delimiter then ([], true, rest.tail)
    else
      let (more, ended, rest') := documentText a fuel (!a.quoted && joinsNext line) rest.tail
      (line ++ rest.take 1 ++ more, ended, rest')

/-- Whether some of a word was quoted. -/
def Word.isQuoted (w : Word) : Bool :=
  w.any fun
    | .text quoted _ => quoted
    | _ => false

/-- The blanks, the comment and the ends of joined lines before a token are skipped; `inComment`
says that a comment was started. -/
def skipBlanks : (inComment : Bool) → List Char → (lines : Nat) → List Char × Nat
  | true, c :: rest, n => if c = '\n' then (c :: rest, n) else skipBlanks true rest n
  | false, '\\' :: '\n' :: rest, n => skipBlanks false rest (n + 1)
  | false, c :: rest, n =>
    if c = ' ' || c = '\t' then skipBlanks false rest n
    else if c = '#' then skipBlanks true rest n
    else (c :: rest, n)
  | _, [], n => ([], n)

/-- The redirection that signs stand for, of a descriptor if there is one before them, and what
comes after it. -/
def redirectionAfter (descriptor : Option Nat) : List Char → Option (Token × List Char)
  | '<' :: '<' :: '-' :: rest => some (.toDocument (descriptor.getD 0) true, rest)
  | '<' :: '<' :: rest => some (.toDocument (descriptor.getD 0) false, rest)
  | '<' :: '&' :: rest => some (.toDescriptor (descriptor.getD 0), rest)
  | '<' :: '>' :: rest => some (.toFile (descriptor.getD 0) .readWrite, rest)
  | '<' :: rest => some (.toFile (descriptor.getD 0) .read, rest)
  | '>' :: '>' :: rest => some (.toFile (descriptor.getD 1) .append, rest)
  | '>' :: '&' :: rest => some (.toDescriptor (descriptor.getD 1), rest)
  | '>' :: '|' :: rest => some (.toFile (descriptor.getD 1) .write, rest)
  | '>' :: rest => some (.toFile (descriptor.getD 1) .write, rest)
  | _ => none

/-- The sign that a text starts with, if it is one, and what comes after it. -/
def signAfter : List Char → Option (Token × List Char)
  | [] => some (.finish, [])
  | '&' :: '&' :: rest => some (.andThen, rest)
  | '&' :: rest => some (.ampersand, rest)
  | '|' :: '|' :: rest => some (.orElse, rest)
  | '|' :: rest => some (.bar, rest)
  | ';' :: ';' :: rest => some (.caseEnd, rest)
  | ';' :: rest => some (.semicolon, rest)
  | '(' :: rest => some (.opening, rest)
  | ')' :: rest => some (.closing, rest)
  | cs => redirectionAfter none cs

/-- The name and the value of a word that assigns. -/
def assignment? : Word → Option (String × Word)
  | .text false s :: rest =>
    let name := String.ofList (s.toList.takeWhile (· ≠ '='))
    match s.toList.dropWhile (· ≠ '=') with
    | [] => none
    | _ :: value =>
      if !isName name then none
      else if value.isEmpty then some (name, rest)
      else some (name, .text false (String.ofList value) :: rest)
  | _ => none

section

variable (self : Phrase → Parse Command)

/-- Reads a script in a word. A body that is read ends before a token, which is put back. -/
def innerScript (closed : Bool) : Parse Command := do
  let before := (← get).awaited
  modify fun s => { s with awaited := [] }
  let command ← self .optionalBody
  let found := (← get).held.getD .finish
  modify fun s => { s with held := none, awaited := before }
  match closed, found with
  | false, _ | true, .closing => return command
  | true, t => Parse.expected t (some .closing)

/-- The next token, which may be a word that is read in a context. -/
def tokenIn (ctx : Context) : Parse Token := do
  match (← get).held with
  | some t =>
    modify fun s => { s with held := none }
    return t
  | none =>
    let (rest, lines) := skipBlanks false (← get).rest 0
    Parse.advanceTo rest lines
    match rest, signAfter rest with
    | '\n' :: rest, _ =>
      Parse.advanceTo rest 1
      return .newline
    | _, some (t, rest) =>
      Parse.advanceTo rest 0
      return t
    | _, none =>
      let w ← readWord (innerScript self) ctx
      let after := (← get).rest
      match (Word.plain? w).filter (·.length = 1) >>= number? with
      | none => return .word w
      | some n =>
        match redirectionAfter (some n) after with
        | none => return .word w
        | some (t, rest) =>
          Parse.advanceTo rest 0
          return t

/-- The next token. -/
def token : Parse Token :=
  tokenIn self .bare

/-- Reads a document. Where its text ends within braces or parentheses, that is noticed on the line
after it, and where it ends within a script, on the last line of all. -/
def documentWord (text : List Char) (ended : Bool) : Parse Word := fun s =>
  match Parse.inText s.line text (readWord (innerScript self) .document) s with
  | (.error e, after) =>
    let line :=
      if !ended || !after.rest.isEmpty then e.line
      else if "Missing".toList.isPrefixOf e.message.toList then e.line + 1
      else s.line + countLines s.rest
    (.error { e with line }, after)
  | r => r

/-- Reads the documents that were asked for on the line before. -/
def readDocuments : Parse Unit := do
  for a in (← get).awaited do
    let cs := (← get).rest
    let (text, ended, rest) := documentText a (cs.length + 1) false cs
    let word ←
      if a.quoted then pure [Piece.text true (String.ofList text)]
      else documentWord self text ended
    let lines := countLines text + if ended then 1 else 0
    modify fun s =>
      { s with rest, line := s.line + lines, documents := s.documents.set a.number word }
  modify fun s => { s with awaited := [] }

/-- The next token that is no end of a line. -/
def tokenOver : (fuel : Nat) → Parse Token
  | 0 => token self
  | fuel + 1 => do
    match ← token self with
    | .newline =>
      readDocuments self
      tokenOver fuel
    | t => return t

/-- The next token, where a command may start: ends of lines before it are skipped unless they
count, and a word may be a keyword. -/
def commandToken (newlines : Bool) : Parse Token := do
  match ← if newlines then token self else tokenOver self ((← get).rest.length + 1) with
  | .word w =>
    match Word.plain? w with
    | some s => return if keywords.contains s then .keyword s else .word w
    | none => return .word w
  | t => return t

/-- Reads a keyword that has to come next. -/
def expectKeyword (k : String) : Parse Unit := do
  match ← commandToken self false with
  | .keyword k' => if k' = k then return () else Parse.expected (.keyword k') (some (.keyword k))
  | t => Parse.expected t (some (.keyword k))

/-- The redirection that a token starts, if it starts one. -/
def redirection? (t : Token) : Parse (Option Redirection) := do
  let wanted (ctx : Context) : Parse Word := do
    match ← tokenIn self ctx with
    | .word w => return w
    | t => Parse.expected t none
  match t with
  | .toFile descriptor use => return some (.file descriptor use (← wanted .bare))
  | .toDescriptor descriptor => return some (.duplicate descriptor (← wanted .bare))
  | .toDocument descriptor dropsTabs =>
    let w ← wanted (.delimiter false)
    let number := (← get).documents.length
    let a : Awaited :=
      { number, delimiter := Word.literal w, dropsTabs, quoted := Word.isQuoted w }
    modify fun s => { s with awaited := s.awaited ++ [a], documents := s.documents ++ [[]] }
    return some (.document descriptor number)
  | _ => return none

/-- Reads redirections. -/
def redirections : (fuel : Nat) → List Redirection → Parse (List Redirection)
  | 0, acc => return acc
  | fuel + 1, acc => do
    let t ← commandToken self true
    match ← redirection? self t with
    | some r => redirections fuel (acc ++ [r])
    | none =>
      Parse.putBack t
      return acc

/-- Reads words, and the token after them. -/
def wordsBefore : (fuel : Nat) → List Word → Parse (List Word × Token)
  | 0, acc => return (acc, .finish)
  | fuel + 1, acc => do
    match ← token self with
    | .word w => wordsBefore fuel (acc ++ [w])
    | t => return (acc, t)

/-- What is read so far of a simple command. -/
structure Simple where
  line : Nat
  assignments : List (String × Word) := []
  words : List Word := []
  redirections : List Redirection := []

/-- The simple command that was read. -/
def Simple.command (s : Simple) : Command :=
  .simple s.line s.assignments s.words s.redirections

/-- Reads the rest of a simple command, which may turn out to be the definition of a function. -/
def simpleFrom : (fuel : Nat) → Simple → Parse Command
  | 0, s => return s.command
  | fuel + 1, s => do
    match ← token self with
    | .word w =>
      match if s.words.isEmpty then assignment? w else none with
      | some a => simpleFrom fuel { s with assignments := s.assignments ++ [a] }
      | none => simpleFrom fuel { s with words := s.words ++ [w] }
    | .opening =>
      match s.words, s.assignments, s.redirections with
      | [w], [], [] =>
        match ← token self with
        | .closing => pure ()
        | t => Parse.expected t (some .closing)
        match (Word.plain? w).filter fun name => isName name && !specialWords.contains name with
        | none => Parse.complain "Bad function name"
        | some name =>
          let t ← commandToken self false
          Parse.putBack t
          return .define s.line name (← self .command)
      | _, _, _ =>
        Parse.putBack .opening
        return s.command
    | t =>
      match ← redirection? self t with
      | some r => simpleFrom fuel { s with redirections := s.redirections ++ [r] }
      | none =>
        Parse.putBack t
        return s.command

/-- Reads what comes after the test of a conditional. -/
def conditionalFrom : (fuel : Nat) → Parse Command
  | 0 => Parse.expected .finish (some (.keyword "fi"))
  | fuel + 1 => do
    let test ← self .body
    expectKeyword self "then"
    let yes ← self .body
    match ← commandToken self false with
    | .keyword "elif" => return .conditional test yes (← conditionalFrom fuel)
    | .keyword "else" => return .conditional test yes (← self .body)
    | t =>
      Parse.putBack t
      return .conditional test yes .nothing

/-- Reads the patterns of a case from the token after their opening parenthesis, if there is one. -/
def patternsFrom : (fuel : Nat) → Token → List Word → Parse (List Word)
  | 0, t, _ => Parse.expected t (some .closing)
  | fuel + 1, t, acc => do
    match t with
    | .word w =>
      match ← token self with
      | .bar => patternsFrom fuel (← token self) (acc ++ [w])
      | .closing => return acc ++ [w]
      | t => Parse.expected t (some .closing)
    | .keyword k =>
      match ← token self with
      | .bar => patternsFrom fuel (← token self) (acc ++ [[.text false k]])
      | .closing => return acc ++ [[.text false k]]
      | t => Parse.expected t (some .closing)
    | t =>
      match ← token self with
      | .closing => Parse.expected t (some .closing)
      | t' => Parse.expected t' (some .closing)

/-- Reads the cases of a choice, up to the word that ends it. -/
def casesFrom : (fuel : Nat) → List (List Word × Command) → Parse (List (List Word × Command))
  | 0, acc => return acc
  | fuel + 1, acc => do
    match ← commandToken self false with
    | .keyword "esac" => return acc
    | t =>
      let first ← match t with
        | .opening => token self
        | t => pure t
      let patterns ← patternsFrom self fuel first []
      let body ← self .optionalBody
      match ← commandToken self false with
      | .keyword "esac" => return acc ++ [(patterns, body)]
      | .caseEnd => casesFrom fuel (acc ++ [(patterns, body)])
      | t => Parse.expected t (some .caseEnd)

/-- Reads a loop over words from its name on. -/
def eachFrom (line fuel : Nat) : Parse Command := do
  let name ← match ← token self with
    | .word w =>
      match (Word.plain? w).filter isName with
      | some name => pure name
      | none => Parse.complain "Bad for loop variable"
    | _ => Parse.complain "Bad for loop variable"
  let words ← match ← commandToken self false with
    | .keyword "in" => do
      match ← wordsBefore self fuel [] with
      | (words, .newline) =>
        Parse.putBack .newline
        pure (some words)
      | (words, .semicolon) => pure (some words)
      | (_, t) => Parse.expected t none
    | .semicolon => pure none
    | t => do
      Parse.putBack t
      pure none
  expectKeyword self "do"
  let body ← self .body
  expectKeyword self "done"
  return .each line name words body

/-- A command with redirections after it. -/
def redirectedBy (line : Nat) (command : Command) : List Redirection → Command
  | [] => command
  | rs =>
    match command with
    | .subshell line body _ => .subshell line body rs
    | command => .redirected line command rs

/-- Reads one command. -/
def oneCommand (fuel : Nat) : Parse Command := do
  let line := (← get).line
  let t ← commandToken self true
  let compound (act : Parse Command) : Parse Command := do
    let command ← act
    return redirectedBy line command (← redirections self fuel [])
  match t with
  | .keyword "if" => compound do
    let command ← conditionalFrom self fuel
    expectKeyword self "fi"
    return command
  | .keyword "while" => compound do
    let test ← self .body
    expectKeyword self "do"
    let body ← self .body
    expectKeyword self "done"
    return .loop true test body
  | .keyword "until" => compound do
    let test ← self .body
    expectKeyword self "do"
    let body ← self .body
    expectKeyword self "done"
    return .loop false test body
  | .keyword "for" => compound (eachFrom self line fuel)
  | .keyword "case" => compound do
    match ← token self with
    | .word w =>
      expectKeyword self "in"
      return .choice line w (← casesFrom self fuel [])
    | t => Parse.expected t (some (.word []))
  | .keyword "\x7b" => compound do
    let body ← self .body
    expectKeyword self "\x7d"
    return body
  | .opening => compound do
    let body ← self .body
    match ← commandToken self false with
    | .closing => return .subshell line body []
    | t => Parse.expected t (some .closing)
  | .word w =>
    Parse.putBack (.word w)
    simpleFrom self fuel { line }
  | .toFile .. | .toDescriptor .. | .toDocument .. =>
    Parse.putBack t
    simpleFrom self fuel { line }
  | t => Parse.expected t none

/-- Reads commands after which a bar says that there are more. -/
def stagesFrom : (fuel : Nat) → List Command → Parse (List Command)
  | 0, acc => return acc
  | fuel + 1, acc => do
    let acc := acc ++ [← self .command]
    match ← token self with
    | .bar =>
      let t ← commandToken self false
      Parse.putBack t
      stagesFrom fuel acc
    | t =>
      Parse.putBack t
      return acc

/-- Reads a pipeline. -/
def pipeline (fuel : Nat) : Parse Command := do
  let joined (stages : List Command) : Command :=
    match stages with
    | [c] => c
    | cs => .pipeline cs
  match ← commandToken self false with
  | .keyword "!" => return .negation (joined (← stagesFrom self fuel []))
  | t =>
    Parse.putBack t
    return joined (← stagesFrom self fuel [])

/-- Reads pipelines that depend on those before them. -/
def dependentFrom : (fuel : Nat) → Command → Parse Command
  | 0, first => return first
  | fuel + 1, first => do
    match ← token self with
    | .andThen => dependentFrom fuel (.both first (← pipeline self fuel))
    | .orElse => dependentFrom fuel (.either first (← pipeline self fuel))
    | t =>
      Parse.putBack t
      return first

/-- Whether a token ends a body. -/
def endsBody : Token → Bool
  | .closing | .caseEnd => true
  | .keyword k =>
    ["do", "done", "elif", "else", "esac", "fi", "then", "\x7d"].contains k
  | _ => false

/-- A command after another one, if there is one. -/
def followedBy : Option Command → Command → Command
  | none, c => c
  | some first, c => .sequence first c

/-- Reads commands, after those read so far. -/
def listFrom (phrase : Phrase) : (fuel : Nat) → Option Command → Parse Command
  | 0, acc => return acc.getD .nothing
  | fuel + 1, acc => do
    let finished : Parse Command := do
      readDocuments self
      Parse.putBack .finish
      return acc.getD .nothing
    let t ← commandToken self (phrase = .line)
    match t with
    | .newline =>
      readDocuments self
      return acc.getD .nothing
    | .finish => finished
    | _ =>
      Parse.putBack t
      if endsBody t && (acc.isSome || phrase = .optionalBody) && phrase ≠ .line then
        return acc.getD .nothing
      else
        let command ← dependentFrom self fuel (← pipeline self fuel)
        match ← token self with
        | .ampersand => listFrom phrase fuel (some (followedBy acc (.background command)))
        | .semicolon => listFrom phrase fuel (some (followedBy acc command))
        | .newline =>
          Parse.putBack .newline
          listFrom phrase fuel (some (followedBy acc command))
        | .finish =>
          readDocuments self
          Parse.putBack .finish
          return followedBy acc command
        | t =>
          if phrase = .line then Parse.expected t none
          else
            Parse.putBack t
            return followedBy acc command

end

/-- Reads what is asked for. -/
def parse : (fuel : Nat) → Phrase → Parse Command
  | 0, _ => Parse.complain "too deeply nested"
  | fuel + 1, .command => oneCommand (parse fuel) fuel
  | fuel + 1, phrase => listFrom (parse fuel) phrase fuel none

/-- A line of commands, and whether the script is known to end after it. -/
structure ScriptLine where
  command : Command
  isLast : Bool

/-- Reads the next line of a script: its commands, or nothing at the end. -/
def nextLine (s : Source) : Except Misread (Option ScriptLine × Source) :=
  let fuel := 4 * s.rest.length + 16
  let act : Parse (Option ScriptLine) := do
    let command ← parse fuel .line
    let isLast := match (← get).held with
      | some .finish => true
      | _ => false
    match command, isLast with
    | .nothing, true => return none
    | command, isLast => return some { command, isLast }
  match act.run s with
  | (.ok line, s') => .ok (line, { s' with held := none })
  | (.error e, _) => .error e

end GuestImage.Rehearsal.Shell
