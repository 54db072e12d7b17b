import GuestImage.Rehearsal.Shell.State

/-!
# Arithmetic

Expressions are computed as they are read, in signed words of 64 bits. Where the value of an
operand is not needed, it is read all the same, but it changes nothing.
-/

namespace GuestImage.Rehearsal.Shell

/-- A token of an expression. -/
inductive ArithToken where
  | number (n : Int)
  | name (s : String)
  | sign (s : String)
  /-- A character that has no meaning. -/
  | unknown
  deriving DecidableEq, Repr

/-- How many words of 64 bits there are. -/
def wordCount : Nat := 0x10000000000000000

/-- A number as a signed word. -/
def toWord (n : Int) : Int :=
  n.bmod wordCount

/-- A number as an unsigned word. -/
def toUnsigned (n : Int) : Nat :=
  (n % wordCount).toNat

/-- The value of a digit, of any base up to 36. -/
def digitOf (c : Char) : Nat :=
  if c.isDigit then c.toNat - '0'.toNat
  else if 'a' ≤ c && c ≤ 'z' then c.toNat - 'a'.toNat + 10
  else if 'A' ≤ c && c ≤ 'Z' then c.toNat - 'A'.toNat + 10
  else 99

/-- The digits of a base that a text starts with, as a number and their count. -/
def leadingDigits (base : Nat) (cs : List Char) : Nat × Nat :=
  let ds := cs.takeWhile fun c => digitOf c < base
  (ds.foldl (fun n c => n * base + digitOf c) 0, ds.length)

/-- The number that a text starts with, in the base that its first digits tell, and how many
characters it has; none, where it starts with no digit. -/
def leadingNumber (cs : List Char) : Option (Nat × Nat) :=
  match cs with
  | '0' :: x :: rest =>
    let (n, count) := leadingDigits 16 rest
    if (x = 'x' || x = 'X') && 0 < count then some (n, count + 2) else some (leadingDigits 8 cs)
  | '0' :: _ => some (0, 1)
  | _ =>
    let (n, count) := leadingDigits 10 cs
    if count = 0 then none else some (n, count)

/-- The largest signed word. -/
def maxWord : Nat := wordCount / 2 - 1

/-- Signs of two and three characters. -/
def longSigns : List String :=
  ["<<=", ">>=", "<<", ">>", "<=", ">=", "==", "!=", "&&", "||", "+=", "-=", "*=", "/=", "%=", "&=",
    "|=", "^="]

/-- The tokens of an expression. -/
def arithTokens : (fuel : Nat) → List Char → List ArithToken
  | 0, _ => []
  | _ + 1, [] => []
  | fuel + 1, c :: rest =>
    if c = ' ' || c = '\t' || c = '\n' then arithTokens fuel rest
    else if isNameStart c then
      .name (String.ofList (c :: rest.takeWhile isNameRest)) ::
        arithTokens fuel (rest.dropWhile isNameRest)
    else
      match leadingNumber (c :: rest) with
      | some (n, count) =>
        .number (min n maxWord : Nat) :: arithTokens fuel ((c :: rest).drop count)
      | none =>
        match longSigns.find? fun s => s.toList.isPrefixOf (c :: rest) with
        | some s => .sign s :: arithTokens fuel ((c :: rest).drop s.length)
        | none =>
          if "()+-*/%<>=!~&|^?:".toList.contains c then
            .sign (String.singleton c) :: arithTokens fuel rest
          else .unknown :: arithTokens fuel rest

/-- How strongly signs between two operands bind. -/
def strength? (s : String) : Option Nat :=
  match s with
  | "|" => some 1
  | "^" => some 2
  | "&" => some 3
  | "==" | "!=" => some 4
  | "<" | ">" | "<=" | ">=" => some 5
  | "<<" | ">>" => some 6
  | "+" | "-" => some 7
  | "*" | "/" | "%" => some 8
  | _ => none

/-- One for what holds, and zero for what does not. -/
def truth (b : Bool) : Int :=
  if b then 1 else 0

/-- The value of a sign between two operands; none, where something is divided by zero. -/
def combine (sign : String) (a b : Int) : Option Int :=
  let bits (f : Nat → Nat → Nat) : Int := toWord (f (toUnsigned a) (toUnsigned b) : Nat)
  match sign with
  | "|" => some (bits (· ||| ·))
  | "^" => some (bits (· ^^^ ·))
  | "&" => some (bits (· &&& ·))
  | "==" => some (truth (a = b))
  | "!=" => some (truth (a ≠ b))
  | "<" => some (truth (a < b))
  | ">" => some (truth (a > b))
  | "<=" => some (truth (a ≤ b))
  | ">=" => some (truth (a ≥ b))
  | "<<" => some (toWord (a <<< (b % 64).toNat))
  | ">>" => some (a >>> (b % 64).toNat)
  | "+" => some (toWord (a + b))
  | "-" => some (toWord (a - b))
  | "*" => some (toWord (a * b))
  | "/" => if b = 0 then none else some (toWord (a.tdiv b))
  | "%" => if b = 0 then none else some (toWord (a.tmod b))
  | _ => some b

/-- A kind of expression. -/
inductive Level where
  | assignment
  | conditional
  | disjunction
  | conjunction
  /-- Signs between operands that bind as strongly as said, or more. -/
  | binary (strength : Nat)
  /-- The same after the value of the first operands. -/
  | further (strength : Nat) (value : Int)
  | operand
  deriving DecidableEq, Repr

/-- The number that is written in a text, and nothing else. -/
def wholeNumber? (s : String) : Option Int :=
  let cs := s.toList.dropWhile fun c => c = ' ' || c = '\t' || c = '\n'
  let (negative, cs) := match cs with
    | '-' :: rest => (true, rest)
    | '+' :: rest => (false, rest)
    | _ => (false, cs)
  match leadingNumber cs with
  | none => if s.isEmpty then some 0 else none
  | some (n, count) =>
    if (cs.drop count).all fun c => c = ' ' || c = '\t' || c = '\n' then
      some (if negative then -(min n (maxWord + 1) : Nat) else (min n maxWord : Nat))
    else none

/-- The number that is the value of a variable, zero where it has none. -/
def numberOf (name : String) : Exec Int := do
  match ← Exec.valueOf? name with
  | none => return 0
  | some s =>
    match wholeNumber? s with
    | some n => return n
    | none => Exec.fail ("Illegal number: " ++ s)

section

variable (text : String)

/-- Complains about the expression. -/
def arithFault {α : Type} (message : String) : Exec α :=
  Exec.fail ("arithmetic expression: " ++ message ++ ": \"" ++ text ++ "\"")

/-- The value of operands with a sign between them. -/
def combined (skipped : Bool) (sign : String) (a b : Int) : Exec Int :=
  if skipped then return b
  else
    match combine sign a b with
    | some n => return n
    | none => arithFault text "division by zero"

/-- The value of the expression of a kind that tokens start with, and the tokens after it. The value
is not needed where the expression is `skipped`. -/
def arithmetic : (fuel : Nat) → Level → (skipped : Bool) → List ArithToken →
    Exec (Int × List ArithToken)
  | 0, _, _, _ => arithFault text "expression too deeply nested"
  | fuel + 1, .assignment, skipped, ts => do
    match ts with
    | .name x :: .sign s :: rest =>
      let operator := String.ofList s.toList.dropLast
      if s = "=" || ((strength? operator).isSome && s.toList.getLast? = some '=' &&
          (strength? s).isNone) then
        let (n, rest) ← arithmetic fuel .assignment skipped rest
        if skipped then return (n, rest)
        else
          let n ← if s = "=" then pure n else combined text false operator (← numberOf x) n
          Exec.assign x (toString n)
          return (n, rest)
      else arithmetic fuel .conditional skipped ts
    | _ => arithmetic fuel .conditional skipped ts
  | fuel + 1, .conditional, skipped, ts => do
    let (a, rest) ← arithmetic fuel .disjunction skipped ts
    match rest with
    | .sign "?" :: rest =>
      let (b, rest) ← arithmetic fuel .assignment (skipped || a = 0) rest
      match rest with
      | .sign ":" :: rest =>
        let (c, rest) ← arithmetic fuel .conditional (skipped || a ≠ 0) rest
        return (if a = 0 then c else b, rest)
      | _ => arithFault text "expecting ':'"
    | _ => return (a, rest)
  | fuel + 1, .disjunction, skipped, ts => do
    let (a, rest) ← arithmetic fuel .conjunction skipped ts
    match rest with
    | .sign "||" :: rest =>
      let (b, rest) ← arithmetic fuel .disjunction (skipped || a ≠ 0) rest
      return (truth (a ≠ 0 || b ≠ 0), rest)
    | _ => return (a, rest)
  | fuel + 1, .conjunction, skipped, ts => do
    let (a, rest) ← arithmetic fuel (.binary 1) skipped ts
    match rest with
    | .sign "&&" :: rest =>
      let (b, rest) ← arithmetic fuel .conjunction (skipped || a = 0) rest
      return (truth (a ≠ 0 && b ≠ 0), rest)
    | _ => return (a, rest)
  | fuel + 1, .binary strength, skipped, ts => do
    let tighter := if strength < 8 then Level.binary (strength + 1) else .operand
    let (a, rest) ← arithmetic fuel tighter skipped ts
    arithmetic fuel (.further strength a) skipped rest
  | fuel + 1, .further strength a, skipped, ts => do
    match ts with
    | .sign s :: rest =>
      if strength? s = some strength then
        let tighter := if strength < 8 then Level.binary (strength + 1) else .operand
        let (b, rest) ← arithmetic fuel tighter skipped rest
        arithmetic fuel (.further strength (← combined text skipped s a b)) skipped rest
      else return (a, ts)
    | _ => return (a, ts)
  | fuel + 1, .operand, skipped, ts => do
    match ts with
    | .number n :: rest => return (n, rest)
    | .name x :: rest => return (← if skipped then pure 0 else numberOf x, rest)
    | .sign "(" :: rest =>
      let (n, rest) ← arithmetic fuel .assignment skipped rest
      match rest with
      | .sign ")" :: rest => return (n, rest)
      | _ => arithFault text "expecting ')'"
    | .sign "+" :: rest => arithmetic fuel .operand skipped rest
    | .sign "-" :: rest =>
      let (n, rest) ← arithmetic fuel .operand skipped rest
      return (toWord (-n), rest)
    | .sign "!" :: rest =>
      let (n, rest) ← arithmetic fuel .operand skipped rest
      return (truth (n = 0), rest)
    | .sign "~" :: rest =>
      let (n, rest) ← arithmetic fuel .operand skipped rest
      return (toWord (-n - 1), rest)
    | _ => arithFault text "expecting primary"

/-- The value of an expression. -/
def evaluate : Exec Int := do
  let tokens := arithTokens (text.length + 1) text.toList
  match ← arithmetic text (16 * tokens.length + 32) .assignment false tokens with
  | (n, []) => return n
  | _ => arithFault text "expecting EOF"

end

end GuestImage.Rehearsal.Shell
