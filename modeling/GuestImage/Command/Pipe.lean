import GuestImage.Action

/-!
# Pipes to a child

A child reads its input from a pipe, and may stop reading at any point: a write after it is a broken
pipe. That is no failure of the caller, as the child's exit status says what happened. However the
feeding of a child ends, its pipe is closed; a failure to close it takes the place of an earlier
one.
-/

namespace GuestImage

/-- A pipe to a child. -/
structure Pipe where
  /-- The most octets the child reads, if it stops reading. -/
  limit : Option Nat := none
  /-- What the first attempt to close the pipe fails with. -/
  closeFailure : Option Failure := none
  /-- What the child was given. -/
  received : List UInt8 := []
  closed : Bool := false
  deriving Repr

namespace Pipe

variable {S : Type}

/-- The refusal of a write to a child that does not read any more. -/
def broken : Failure :=
  ⟨.refusal (.ofNumber 32 "Broken pipe" []), []⟩

/-- Whether a failure is a broken pipe. -/
def isBroken (e : Failure) : Bool :=
  match e.fault with
  | .refusal r => r.kind = .brokenPipe
  | _ => false

/-- Whether a child still reads when it has read `n` octets. -/
def takes (p : Pipe) (n : Nat) : Bool :=
  match p.limit with
  | none => true
  | some limit => n ≤ limit

/-- Writes octets, all of them or none. -/
def write (octets : List UInt8) : Action Pipe Unit := fun p =>
  if p.takes (p.received.length + octets.length) then
    (.ok (), { p with received := p.received ++ octets })
  else (.error broken, p)

/-- Writes the pieces of a stream one by one, up to what it ends with. A piece with nothing in it is
taken for the end. -/
def copy (ending : Option Failure) : List (List UInt8) → Action Pipe Unit
  | [] =>
    match ending with
    | none => return ()
    | some e => throw e
  | chunk :: rest => do
    if chunk.isEmpty then return ()
    write chunk
    copy ending rest

/-- Closes a pipe. -/
def close : Action Pipe Unit := fun p =>
  match p.closeFailure with
  | none => (.ok (), { p with closed := true })
  | some e => (.error e, { p with closeFailure := none })

/-- Steps for which a broken pipe is as good as success. -/
def tolerant (act : Action S Unit) : Action S Unit := do
  match ← Action.attempt act with
  | .ok () => return ()
  | .error e => if isBroken e then return () else throw e

/-- Gives a child a stream and closes its pipe. -/
def feed (chunks : List (List UInt8)) (ending : Option Failure) : Action Pipe Unit := do
  let copied ← Action.attempt (tolerant (copy ending chunks))
  tolerant close
  Action.ofExcept copied

end Pipe

end GuestImage
