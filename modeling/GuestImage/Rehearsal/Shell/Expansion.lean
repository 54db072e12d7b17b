import GuestImage.Rehearsal.Shell.Arithmetic
import GuestImage.Rehearsal.Shell.Pattern

/-!
# What words stand for

The pieces of a word become parts of text, and parts become fields. What was quoted stays together,
and what parameters and scripts stand for outside quotes is split at the characters that separate
fields. Blank ones of these only separate what is there; between any two of the others there is a
field, maybe an empty one.
-/

namespace GuestImage.Rehearsal.Shell

/-- A part of what a word stands for. -/
inductive Part where
  /-- Text that stays together; what is quoted is there even if it is empty. -/
  | fixed (quoted : Bool) (s : String)
  /-- Text that is split. -/
  | loose (s : String)
  /-- The place between two arguments. -/
  | boundary
  deriving DecidableEq, Repr

/-- The text of parts that are not split. -/
def joinParts (parts : List Part) : String :=
  String.join (parts.map fun
    | .fixed _ s | .loose s => s
    | .boundary => " ")

/-- The characters of parts as those of a pattern. -/
def patternOf (parts : List Part) : Marked :=
  parts.flatMap fun
    | .fixed quoted s => marked quoted s
    | .loose s => marked false s
    | .boundary => marked false " "

/-- What is split so far: the fields, the last one first, the one that was started, and whether
nothing but blanks came since the last one. -/
structure Splitting where
  fields : List String := []
  current : Option String := none
  afterBlank : Bool := false

namespace Splitting

/-- Ends the field that was started, if there is one. -/
def close (s : Splitting) : Splitting :=
  match s.current with
  | none => s
  | some field => { s with fields := field :: s.fields, current := none }

/-- Goes on with a character that separates fields if it is one of the separators. -/
def looseChar (separators : List Char) (s : Splitting) (c : Char) : Splitting :=
  if !separators.contains c then { s with current := some ((s.current.getD "").push c) }
  else if c = ' ' || c = '\t' || c = '\n' then
    if s.current.isSome then { s.close with afterBlank := true } else s
  else if s.current.isSome then { s.close with afterBlank := false }
  else if s.afterBlank then { s with afterBlank := false }
  else { s with fields := "" :: s.fields }

/-- Goes on with a part. -/
def part (separators : List Char) (s : Splitting) : Part → Splitting
  | .fixed quoted t =>
    if t.isEmpty && !quoted then s else { s with current := some (s.current.getD "" ++ t) }
  | .loose t => t.toList.foldl (looseChar separators) s
  | .boundary => { s.close with afterBlank := false }

end Splitting

/-- The fields of parts. -/
def fieldsOf (separators : List Char) (parts : List Part) : List String :=
  (parts.foldl (Splitting.part separators) {}).close.fields.reverse

namespace Exec

/-- The characters that separate fields. -/
def separators : Exec (List Char) := do
  return ((← valueOf? "IFS").getD " \t\n").toList

/-- The home that a text starts with after a tilde, the user's own or the one of a user who is
named, and what comes after it. Where the text `goesOn`, the name has to end in it. -/
def homeAt (goesOn : Bool) : List Char → Exec (Option (String × List Char))
  | '~' :: cs => do
    let user := String.ofList (cs.takeWhile (· ≠ '/'))
    let after := cs.dropWhile (· ≠ '/')
    let home ←
      if after.isEmpty && goesOn then pure none
      else if user.isEmpty then valueOf? "HOME"
      else if user = "root" then pure (some "/root")
      else pure none
    return home.map (·, after)
  | _ => return none

/-- A word with a tilde at its start replaced by a home. -/
def withHome : Word → Exec Word
  | .text false s :: rest => do
    match ← homeAt (!rest.isEmpty) s.toList with
    | some (home, after) => return .text true home :: .text false (String.ofList after) :: rest
    | none => return .text false s :: rest
  | w => return w

/-- The parts of a text between colons, the tildes at their starts replaced by homes; the first part
goes on with what comes before it unless it is `fresh`. -/
def homesBetween (goesOn : Bool) : (fresh : Bool) → List (List Char) → Exec Word
  | _, [] => return []
  | fresh, part :: rest => do
    let home ← if fresh then homeAt (goesOn && rest.isEmpty) part else pure none
    let pieces : Word := match home with
      | some (home, after) => [.text true home, .text false (String.ofList after)]
      | none => [.text false (String.ofList part)]
    let colon : Word := if rest.isEmpty then [] else [.text false ":"]
    return pieces ++ colon ++ (← homesBetween goesOn true rest)

/-- A word that is assigned with the tildes at its start and after colons replaced by homes. -/
def withHomes : (fresh : Bool) → Word → Exec Word
  | _, [] => return []
  | fresh, .text false s :: rest => do
    let pieces ← homesBetween (!rest.isEmpty) fresh (s.toList.splitOn ':')
    return pieces ++ (← withHomes false rest)
  | _, piece :: rest => return piece :: (← withHomes false rest)

/-- What stands for a parameter: nothing, a value, or the arguments. -/
inductive Held where
  | unset
  | value (s : String)
  | arguments (l : List String)

/-- What a parameter holds. -/
def held (name : String) : Exec Held := do
  let s ← shell
  match name with
  | "@" | "*" => return .arguments s.arguments
  | "#" => return .value (toString s.arguments.length)
  | "?" => return .value (toString s.status)
  | "$" => return .value (toString s.process)
  | "-" => return .value (settingLetters s.settings)
  | "!" => return s.lastJob.elim .unset fun n => .value (toString n)
  | "0" => return .value s.name
  | _ =>
    match number? name with
    | some n => return s.arguments[n - 1]?.elim .unset .value
    | none => return (← valueOf? name).elim .unset .value

/-- The parts of what a parameter holds. -/
def heldParts (quoted : Bool) (name : String) (h : Held) : Exec (List Part) := do
  let part (s : String) : Part := if quoted then .fixed true s else .loose s
  match h with
  | .unset => return if quoted then [.fixed true ""] else []
  | .value s => return [part s]
  | .arguments l =>
    if quoted && name = "*" then
      let gap := match ← valueOf? "IFS" with
        | none => " "
        | some s => String.ofList (s.toList.take 1)
      return [.fixed true (gap.intercalate l)]
    else return (l.map part).intersperse .boundary

/-- Whether a parameter holds something, which is not empty where an empty value counts for none. -/
def isHeld (orNull : Bool) : Held → Bool
  | .unset => false
  | .value s => !orNull || !s.isEmpty
  | .arguments l => !l.isEmpty && (!orNull || l.any (!·.isEmpty) || 1 < l.length)

/-- The text of what a parameter holds. -/
def heldText : Held → String
  | .unset => ""
  | .value s => s
  | .arguments l => " ".intercalate l

/-- Makes sure that a parameter is set where that is insisted on. -/
def insistHeld (name : String) (h : Held) : Exec Unit := do
  match h with
  | .unset =>
    if (← shell).settings.contains .insistOnSet then fail (name ++ ": parameter not set")
  | _ => return ()

section

variable (capture : Command → Exec String)

/-- The parts of what pieces of a word stand for. -/
def partsOf : (fuel : Nat) → Word → Exec (List Part)
  | 0, _ => return []
  | _ + 1, [] => return []
  | fuel + 1, piece :: rest => do
    let parts ← match piece with
      | .text quoted s => pure [Part.fixed quoted s]
      | .output quoted script => do
        let s ← capture script
        pure [if quoted then Part.fixed true s else .loose s]
      | .value expression => do
        let text := joinParts (← partsOf fuel expression)
        pure [Part.fixed true (toString (← evaluate text))]
      | .parameter quoted name use => do
        let h ← held name
        let instead (word : Word) : Exec (List Part) := do
          return (← partsOf fuel (← if quoted then pure word else withHome word)).map fun
            | .fixed false s => if quoted then .fixed true s else .loose s
            | p => p
        let text (s : String) : Part := if quoted then .fixed true s else .loose s
        match use with
        | .plain =>
          insistHeld name h
          heldParts quoted name h
        | .length =>
          insistHeld name h
          match h with
          | .arguments l => pure [text (toString l.length)]
          | h => pure [text (toString (heldText h).length)]
        | .otherwise orNull word =>
          if isHeld orNull h then heldParts quoted name h else instead word
        | .instead orNull word =>
          if isHeld orNull h then instead word else heldParts quoted name .unset
        | .assign orNull word =>
          if isHeld orNull h then heldParts quoted name h
          else if !isName name then fail (name ++ ": bad variable name")
          else
            let word ← if quoted then pure word else withHome word
            let value := joinParts (← partsOf fuel word)
            assign name value
            pure [text value]
        | .insist orNull word =>
          if isHeld orNull h then heldParts quoted name h
          else if word.isEmpty then
            fail (name ++ ": parameter not set" ++ if orNull then " or null" else "")
          else fail (name ++ ": " ++ joinParts (← partsOf fuel word))
        | .cut side longest word =>
          insistHeld name h
          let pattern := patternOf (← partsOf fuel word)
          let s := heldText h
          pure [text (match side with
            | .start => cutStart pattern longest s
            | .finish => cutEnd pattern longest s)]
        | .unknown => fail "Bad substitution"
    return parts ++ (← partsOf fuel rest)

/-- The fields that words stand for. -/
def fieldsOfWords (fuel : Nat) : List Word → Exec (List String)
  | [] => return []
  | w :: rest => do
    let parts ← partsOf capture fuel (← withHome w)
    let fields := fieldsOf (← separators) parts
    return fields ++ (← fieldsOfWords fuel rest)

/-- The text that a word stands for where it is not split. -/
def textOfWord (fuel : Nat) (w : Word) : Exec String := do
  return joinParts (← partsOf capture fuel (← withHome w))

/-- The text that a word stands for where it is assigned. -/
def valueOfWord (fuel : Nat) (w : Word) : Exec String := do
  return joinParts (← partsOf capture fuel (← withHomes true w))

/-- The pattern that a word stands for. -/
def patternOfWord (fuel : Nat) (w : Word) : Exec Marked := do
  return patternOf (← partsOf capture fuel (← withHome w))

end

end Exec

end GuestImage.Rehearsal.Shell
