import GuestImage.Rehearsal.Shell.Source

/-!
# Words of a script

A word is read character by character in a context, which says where it ends and which characters
have a meaning in it. A script inside a word is read by whoever reads scripts (`script`), up to the
end of the text or, if it is `closed`, up to its parenthesis.
-/

namespace GuestImage.Rehearsal.Shell

/-- Where a piece of a word stands. -/
inductive Context where
  /-- Among other words. -/
  | bare
  /-- Between double quotes. -/
  | quotes
  /-- In the braces of a parameter, maybe of one in a document, where more double quotes may have
  been opened between double quotes. -/
  | operand (quoted reopened inDocument : Bool)
  /-- In an arithmetic expression, within some parentheses. -/
  | expression (opened : Nat)
  /-- In a document. -/
  | document
  /-- In the line that ends a document, where nothing is replaced. -/
  | delimiter (quoted : Bool)
  deriving DecidableEq, Repr

namespace Context

/-- Whether what stands here is quoted. -/
def isQuoted : Context → Bool
  | .bare => false
  | .operand quoted _ _ | .delimiter quoted => quoted
  | .quotes | .expression _ | .document => true

/-- Whether a backslash stands for itself before a character. -/
def keepsBackslash (ctx : Context) (c : Char) : Bool :=
  match ctx with
  | .bare | .operand false _ _ | .delimiter false => false
  | .operand true _ _ => !(['\\', '\x60', '$', '"', '\x7d'].contains c)
  | .document => !(['\\', '\x60', '$'].contains c)
  | .quotes | .expression _ | .delimiter true => !(['\\', '\x60', '$', '"'].contains c)

/-- What is missing where a text ends too early. A word among others, and a document, just end. -/
def missing? : Context → Option String
  | .bare | .document | .delimiter false => none
  | .quotes | .operand true _ false | .delimiter true => some "Unterminated quoted string"
  | .operand _ _ _ => some "Missing '\x7d'"
  | .expression _ => some "Missing '))'"

/-- Whether a dollar sign and a backquote stand for themselves. -/
def keepsSigns : Context → Bool
  | .delimiter _ => true
  | _ => false

/-- The context in the braces of a parameter in another one, where quotes may have been closed. -/
def inBraces (ctx : Context) (quoted : Bool) : Context :=
  .operand quoted false (match ctx with
    | .document => true
    | .operand _ _ inDocument => inDocument
    | _ => false)

/-- The context between double quotes that were opened in another one. -/
def inQuotes (ctx : Context) : Context :=
  if ctx.keepsSigns then .delimiter true else .quotes

end Context

/-- What is done with a character that is neither a backslash nor a sign that something is to be
replaced. -/
inductive Role where
  | plain
  /-- The end, which the character is not a part of. -/
  | before
  /-- The end, which the character is the last of. -/
  | last
  | singleQuote
  | doubleQuote
  /-- A double quote between double quotes. -/
  | innerQuote
  deriving DecidableEq, Repr

/-- Characters that end a word. -/
def isMeta (c : Char) : Bool :=
  [' ', '\t', '\n', ';', '&', '|', '<', '>', '(', ')'].contains c

/-- The role of a character before others. -/
def Context.role (c : Char) (rest : List Char) : Context → Role
  | .bare | .delimiter false =>
    if isMeta c then .before
    else if c = '\x27' then .singleQuote
    else if c = '"' then .doubleQuote
    else .plain
  | .quotes | .delimiter true => if c = '"' then .last else .plain
  | .operand quoted reopened _ =>
    if c = '\x7d' then if reopened then .plain else .last
    else if c = '"' then if quoted then .innerQuote else .doubleQuote
    else if c = '\x27' && !quoted then .singleQuote
    else .plain
  | .expression opened =>
    if c = ')' && opened = 0 && rest.head? = some ')' then .last else .plain
  | .document => .plain

/-- The context after a plain character. -/
def Context.after (c : Char) : Context → Context
  | .expression opened =>
    .expression (if c = '(' then opened + 1 else if c = ')' then opened - 1 else opened)
  | ctx => ctx

/-- The context after a double quote between double quotes. -/
def Context.reopen : Context → Context
  | .operand quoted reopened inDocument => .operand quoted (!reopened) inDocument
  | ctx => ctx

/-- Pieces, the last one first, and text after them. -/
def addText (quoted : Bool) (s : String) : Word → Word
  | .text q t :: rest =>
    if q = quoted then .text q (t ++ s) :: rest else .text quoted s :: .text q t :: rest
  | pieces => .text quoted s :: pieces

/-- Pieces, the last one first, and a character after them. -/
def addChar (quoted : Bool) (c : Char) : Word → Word
  | .text q t :: rest =>
    if q = quoted then .text q (t.push c) :: rest
    else .text quoted (String.singleton c) :: .text q t :: rest
  | pieces => .text quoted (String.singleton c) :: pieces

/-- Parameters of one sign. -/
def isSpecial (c : Char) : Bool :=
  ['@', '*', '#', '?', '$', '-', '!'].contains c

/-- What stands between backquotes, and what comes after them. -/
def backquoted (quoted : Bool) : List Char → Option (List Char × List Char)
  | [] => none
  | '\\' :: '\n' :: rest => backquoted quoted rest
  | '\\' :: c :: rest =>
    (backquoted quoted rest).map fun r =>
      if ['\\', '\x60', '$'].contains c || quoted && c = '"' then (c :: r.1, r.2)
      else ('\\' :: c :: r.1, r.2)
  | c :: rest =>
    if c = '\x60' then some ([], rest)
    else (backquoted quoted rest).map fun r => (c :: r.1, r.2)

/-- Characters without the ends of joined lines among those that say which parameter is meant and
what is done with it, and how many lines were joined. -/
def joinNames : List Char → List Char × Nat
  | '\\' :: '\n' :: rest =>
    let (cs, lines) := joinNames rest
    (cs, lines + 1)
  | c :: rest =>
    if isNameRest c || isSpecial c || [':', '+', '=', '%', '\x7b'].contains c then
      let (cs, lines) := joinNames rest
      (c :: cs, lines)
    else (c :: rest, 0)
  | [] => ([], 0)

/-- The name of a parameter in braces, whether its length is asked for, and what comes after it. -/
def bracedName (cs : List Char) : Option String × Bool × List Char :=
  let named (isLength : Bool) (cs : List Char) : Option (Option String × Bool × List Char) :=
    match cs with
    | c :: rest =>
      if isNameStart c then
        some (some (String.ofList (c :: rest.takeWhile isNameRest)), isLength,
          rest.dropWhile isNameRest)
      else if c.isDigit then
        some (some (String.ofList (c :: rest.takeWhile Char.isDigit)), isLength,
          rest.dropWhile Char.isDigit)
      else none
    | [] => none
  match named false cs with
  | some r => r
  | none =>
    match cs with
    | '#' :: rest =>
      match named true rest with
      | some r => r
      | none =>
        match rest with
        | c :: '\x7d' :: more =>
          if c = '\x7d' then (some "#", false, rest)
          else if isSpecial c then (some (String.singleton c), true, '\x7d' :: more)
          else (none, false, '\x7d' :: more)
        | _ => (some "#", false, rest)
    | c :: rest =>
      if c = '\x7d' then (none, false, cs)
      else (if isSpecial c then some (String.singleton c) else none, false, rest)
    | [] => (none, false, [])

/-- What is done with the value of a parameter, which may need an operand: the context of the
operand, and the use with it. -/
inductive Operator where
  | done (use : ParameterUse)
  | withWord (ctx : Context) (use : Word → ParameterUse)
  /-- Nothing, and the operand follows the value. -/
  | followed (ctx : Context)

/-- The operator after the name of a parameter in braces, and what comes after it. An operator is
one sign, also one that is unknown. -/
def operatorAfter (ctx : Context) (cs : List Char) : Operator × List Char :=
  let whole := ctx.inBraces ctx.isQuoted
  let part := ctx.inBraces false
  let valued (orNull : Bool) : List Char → Operator × List Char
    | '-' :: rest => (.withWord whole (.otherwise orNull), rest)
    | '=' :: rest => (.withWord whole (.assign orNull), rest)
    | '?' :: rest => (.withWord whole (.insist orNull), rest)
    | '+' :: rest => (.withWord whole (.instead orNull), rest)
    | rest => (.withWord whole fun _ => .unknown, rest.tail)
  match cs with
  | '\x7d' :: rest => (.done .plain, rest)
  | ':' :: '\x7d' :: rest => (.followed whole, rest)
  | ':' :: rest => valued true rest
  | '%' :: '%' :: rest => (.withWord part (.cut .finish true), rest)
  | '%' :: rest => (.withWord part (.cut .finish false), rest)
  | '#' :: '#' :: rest => (.withWord part (.cut .start true), rest)
  | '#' :: rest => (.withWord part (.cut .start false), rest)
  | rest => valued false rest

/-- The pieces of a word, the last one first, after those read so far. -/
def readPieces (script : (closed : Bool) → Parse Command) :
    (fuel : Nat) → Context → Word → Parse Word
  | 0, ctx, _ => Parse.complain (ctx.missing?.getD "word too long")
  | fuel + 1, ctx, acc => do
    let quoted := ctx.isQuoted
    match ctx.keepsSigns, (← get).rest with
    | _, [] =>
      match ctx.missing? with
      | none => return acc
      | some message => Parse.complain message
    | _, '\\' :: '\n' :: rest =>
      Parse.advanceTo rest 1
      readPieces script fuel ctx acc
    | _, ['\\'] =>
      Parse.advanceTo [] 0
      readPieces script fuel ctx (addChar true '\\' acc)
    | _, '\\' :: c :: rest =>
      Parse.advanceTo rest 0
      let acc := if ctx.keepsBackslash c then addChar true '\\' acc else acc
      readPieces script fuel ctx (addChar true c acc)
    | false, '\x60' :: rest =>
      match backquoted quoted rest with
      | none =>
        Parse.advanceTo [] (countLines rest)
        Parse.complain "EOF in backquote substitution"
      | some (inner, rest') =>
        Parse.advanceTo rest' 0
        let command ← Parse.inText 1 inner (script false)
        Parse.advanceTo rest' (countLines inner)
        readPieces script fuel ctx (.output quoted command :: acc)
    | false, '$' :: '\\' :: '\n' :: rest =>
      Parse.advanceTo ('$' :: rest) 1
      readPieces script fuel ctx acc
    | false, '$' :: '(' :: '(' :: rest =>
      Parse.advanceTo rest 0
      let inner ← readPieces script fuel (.expression 0) []
      readPieces script fuel ctx (.value inner.reverse :: acc)
    | false, '$' :: '(' :: rest =>
      Parse.advanceTo rest 0
      let command ← script true
      readPieces script fuel ctx (.output quoted command :: acc)
    | false, '$' :: '\x7b' :: rest =>
      let (rest, lines) := joinNames rest
      Parse.advanceTo rest lines
      let (name?, isLength, rest) := bracedName rest
      let parameter (use : ParameterUse) : Piece := .parameter quoted (name?.getD "") use
      match name?, isLength, rest with
      | some _, true, '\x7d' :: rest =>
        Parse.advanceTo rest 0
        readPieces script fuel ctx (parameter .length :: acc)
      | some _, false, rest =>
        match operatorAfter ctx rest with
        | (.done use, rest) =>
          Parse.advanceTo rest 0
          readPieces script fuel ctx (parameter use :: acc)
        | (.withWord inner use, rest) =>
          Parse.advanceTo rest 0
          let word ← readPieces script fuel inner []
          readPieces script fuel ctx (parameter (use word.reverse) :: acc)
        | (.followed inner, rest) =>
          Parse.advanceTo rest 0
          let word ← readPieces script fuel inner []
          readPieces script fuel ctx (word ++ parameter .plain :: acc)
      | _, _, rest =>
        Parse.advanceTo rest 0
        let _ ← readPieces script fuel (ctx.inBraces quoted) []
        readPieces script fuel ctx (parameter .unknown :: acc)
    | false, '$' :: c :: rest =>
      if isNameStart c then
        let (rest, lines) := joinNames rest
        Parse.advanceTo (rest.dropWhile isNameRest) lines
        let name := String.ofList (c :: rest.takeWhile isNameRest)
        readPieces script fuel ctx (.parameter quoted name .plain :: acc)
      else if c.isDigit || isSpecial c then
        Parse.advanceTo rest 0
        readPieces script fuel ctx (.parameter quoted (String.singleton c) .plain :: acc)
      else
        Parse.advanceTo (c :: rest) 0
        readPieces script fuel ctx (addChar quoted '$' acc)
    | _, c :: rest =>
      match ctx.role c rest with
      | .before => return acc
      | .last =>
        Parse.advanceTo (match ctx with | .expression _ => rest.tail | _ => rest) 0
        return acc
      | .innerQuote =>
        Parse.advanceTo rest 0
        readPieces script fuel ctx.reopen acc
      | .singleQuote =>
        match rest.dropWhile (· ≠ '\x27') with
        | [] =>
          Parse.advanceTo [] (countLines rest)
          Parse.complain "Unterminated quoted string"
        | _ :: rest' =>
          let inner := rest.takeWhile (· ≠ '\x27')
          Parse.advanceTo rest' (countLines inner)
          readPieces script fuel ctx (addText true (String.ofList inner) acc)
      | .doubleQuote =>
        Parse.advanceTo rest 0
        let inner ← readPieces script fuel ctx.inQuotes []
        let inner := if inner.isEmpty then addText true "" acc else inner ++ acc
        readPieces script fuel ctx inner
      | .plain =>
        Parse.advanceTo rest (if c = '\n' then 1 else 0)
        readPieces script fuel (ctx.after c) (addChar quoted c acc)

/-- The pieces of a word in a context. -/
def readWord (script : (closed : Bool) → Parse Command) (ctx : Context) : Parse Word := do
  return (← readPieces script ((← get).rest.length + 1) ctx []).reverse

end GuestImage.Rehearsal.Shell
