import GuestImage.Rehearsal.Shell.Files

/-!
# Conditions

A condition asks about texts, numbers and files. Conditions are joined by signs: negation binds
most, then `-a`, then `-o`, and parentheses group. Of a few words, their number decides which of
them are signs.
-/

namespace GuestImage.Rehearsal.Shell

/-- Signs before one operand. -/
def unarySigns : List String :=
  ["-b", "-c", "-d", "-e", "-f", "-g", "-h", "-k", "-n", "-p", "-r", "-s", "-t", "-u", "-w", "-x",
    "-z", "-G", "-L", "-O", "-S"]

/-- Signs between two operands. -/
def binarySigns : List String :=
  ["=", "!=", "<", ">", "-eq", "-ne", "-ge", "-gt", "-le", "-lt", "-ef", "-nt", "-ot"]

namespace Exec

/-- The number that an operand is, which is a word of 64 bits. -/
def conditionNumber (s : String) : Exec Int := do
  match decimal? s with
  | some n =>
    if -0x8000000000000000 ≤ n && n < 0x8000000000000000 then return n
    else fail ("Illegal number: " ++ s)
  | none => fail ("Illegal number: " ++ s)

/-- Whether a sign before an operand holds of it. -/
def unaryHolds (sign operand : String) : Exec Bool := do
  match sign with
  | "-n" => return !operand.isEmpty
  | "-z" => return operand.isEmpty
  | "-t" =>
    let _ ← conditionNumber operand
    return false
  | "-h" | "-L" =>
    match ← entry operand .entry with
    | .ok (.link _) => return true
    | _ => return false
  | _ =>
    match ← entry operand .object with
    | .error _ => return false
    | .ok e =>
      let isDevice := operand = nullDevice
      match sign with
      | "-e" | "-O" | "-G" => return true
      | "-d" => return e.isDirectory
      | "-f" => return !e.isDirectory && !isDevice
      | "-c" => return isDevice
      | "-s" => return e.isDirectory || e.isNonEmptyFile
      | "-r" => return e.permits .read
      | "-w" => return e.permits .write
      | "-x" => return e.permits .search
      | _ => return false

/-- Whether a sign between two operands holds of them. -/
def binaryHolds (sign a b : String) : Exec Bool := do
  let compare (p : Int → Int → Bool) : Exec Bool := do
    return p (← conditionNumber a) (← conditionNumber b)
  match sign with
  | "=" => return a = b
  | "!=" => return a ≠ b
  | "<" => return a < b
  | ">" => return b < a
  | "-eq" => compare fun m n => m = n
  | "-ne" => compare fun m n => m ≠ n
  | "-ge" => compare fun m n => m ≥ n
  | "-gt" => compare fun m n => m > n
  | "-le" => compare fun m n => m ≤ n
  | "-lt" => compare fun m n => m < n
  | _ => return false

/-- What a word is for a condition. -/
inductive ConditionToken where
  | finish
  | operand
  | unary (sign : String)
  | binary (sign : String)
  /-- One of the signs that join conditions. -/
  | joint (sign : String)
  deriving DecidableEq, Repr

/-- What the first of some words is. A sign before an operand is an operand itself where no operand
comes after it, or where what comes after it is a sign between two. -/
def conditionToken : List String → ConditionToken
  | [] => .finish
  | w :: rest =>
    if unarySigns.contains w then
      match rest with
      | [] => .operand
      | [_] => .unary w
      | x :: _ => if binarySigns.contains x then .operand else .unary w
    else if binarySigns.contains w then .binary w
    else if w = "(" then if rest.isEmpty then .operand else .joint w
    else if [")", "!", "-a", "-o"].contains w then .joint w
    else .operand

/-- A kind of condition. -/
inductive ConditionLevel where
  | disjunction
  | conjunction
  | negation
  deriving DecidableEq, Repr

/-- Whether a condition holds whose first word was taken for a token, and the words from its last
one on. -/
def condition : (fuel : Nat) → ConditionLevel → ConditionToken → List String →
    Exec (Bool × List String)
  | 0, _, _, ws => return (false, ws)
  | fuel + 1, .disjunction, t, ws => do
    let (a, ws) ← condition fuel .conjunction t ws
    if conditionToken ws.tail = .joint "-o" then
      let ws := ws.drop 2
      let (b, ws) ← condition fuel .disjunction (conditionToken ws) ws
      return (a || b, ws)
    else return (a, ws)
  | fuel + 1, .conjunction, t, ws => do
    let (a, ws) ← condition fuel .negation t ws
    if conditionToken ws.tail = .joint "-a" then
      let ws := ws.drop 2
      let (b, ws) ← condition fuel .conjunction (conditionToken ws) ws
      return (a && b, ws)
    else return (a, ws)
  | fuel + 1, .negation, t, ws => do
    match t with
    | .finish => return (false, ws)
    | .joint "!" =>
      let next := conditionToken ws.tail
      let (a, ws) ← condition fuel .negation next (if next = .finish then ws else ws.tail)
      return (!a, ws)
    | .joint "(" =>
      let next := conditionToken ws.tail
      if next = .joint ")" then return (false, ws.tail)
      else
        let (a, ws) ← condition fuel .disjunction next ws.tail
        if conditionToken ws.tail = .joint ")" then return (a, ws.tail)
        else fail "closing paren expected"
    | .unary sign =>
      match ws.tail with
      | [] => fail (sign ++ ": argument expected")
      | x :: rest => return (← unaryHolds sign x, x :: rest)
    | _ =>
      match conditionToken ws.tail with
      | .binary sign =>
        match ws.drop 2 with
        | [] => fail (sign ++ ": argument expected")
        | b :: rest => return (← binaryHolds sign (ws.headD "") b, b :: rest)
      | _ => return (!(ws.headD "").isEmpty, ws)

/-- Whether the condition of words holds. The number of words decides what a few of them are. -/
def conditionHolds : List String → Exec Bool
  | [] => return false
  | ws => do
    let read (t : ConditionToken) (ws : List String) : Exec Bool := do
      let (holds, last) ← condition (8 * ws.length + 8) .disjunction t ws
      match last with
      | x :: _ :: _ => fail (x ++ ": unexpected operator")
      | _ => return holds
    let few (ws : List String) : Exec Bool :=
      match ws with
      | [_, sign, _] =>
        if binarySigns.contains sign then read .operand ws
        else if ws.head? = some "(" && ws.getLast? = some ")" then
          read (conditionToken (ws.drop 1).dropLast) (ws.drop 1).dropLast
        else read (conditionToken ws) ws
      | [_, _, _, _] =>
        if ws.head? = some "(" && ws.getLast? = some ")" then
          read (conditionToken (ws.drop 1).dropLast) (ws.drop 1).dropLast
        else read (conditionToken ws) ws
      | _ => read (conditionToken ws) ws
    let isBinary : Bool := match ws with
      | [_, sign, _] => binarySigns.contains sign
      | _ => false
    match ws with
    | "!" :: rest =>
      if (rest.length = 2 || rest.length = 3) && !isBinary && rest.getLast? ≠ some ")" then
        return !(← few rest)
      else few ws
    | _ => few ws

end Exec

end GuestImage.Rehearsal.Shell
