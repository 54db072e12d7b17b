import GuestImage.Failure.Context
import GuestImage.Text.Decimal
import GuestImage.Text.Quoted

/-!
# Failures

A failure is a fault and the faults that caused it, nearest first. A fault is one of a provisioning
stage, with a code, a hint and a context; a refusal of the operating system, with its number and
the names it is about; one of a few faults of values; or an interruption, which alone is not
ordinary: no release of a resource may set it aside.

A failure says that a resource is gone when some fault of its chain does (`isGone_iff`).
-/

namespace GuestImage

/-- What went wrong in a stage, one code for each kind. -/
inductive ErrorCode where
  | allocation
  | format
  | mount
  | extraction
  | resolvSetup
  | loopDevice
  | parse
  | resize
  | tool
  deriving DecidableEq, Repr

namespace ErrorCode

/-- Every code in its order. -/
def all : List ErrorCode :=
  [.allocation, .format, .mount, .extraction, .resolvSetup, .loopDevice, .parse, .resize, .tool]

/-- The name of a code. -/
def name : ErrorCode → String
  | .allocation => "ALLOCATION"
  | .format => "FORMAT"
  | .mount => "MOUNT"
  | .extraction => "EXTRACTION"
  | .resolvSetup => "RESOLV_SETUP"
  | .loopDevice => "LOOP_DEVICE"
  | .parse => "PARSE"
  | .resize => "RESIZE"
  | .tool => "TOOL"

/-- The identifier that is reported for a code. -/
def id (code : ErrorCode) : String :=
  "E_" ++ code.name

/-- The code with an identifier. -/
def ofId? (s : String) : Option ErrorCode :=
  all.find? (·.id = s)

theorem mem_all (code : ErrorCode) : code ∈ all := by
  cases code <;> simp [all]

end ErrorCode

/-- A fault of a stage. `general` says that it was raised under no kind of its own. -/
structure StageFault where
  code : ErrorCode
  message : String
  hint : Option String := none
  context : Context := {}
  general : Bool := false
  deriving DecidableEq, Repr

namespace StageFault

/-- The lines of what a fault says: its message, its hint, and the texts known in its context. -/
def lines (f : StageFault) : List String :=
  [f.message] ++
    (match f.hint with
      | none => []
      | some h => if h.isEmpty then [] else ["Hint: " ++ h]) ++
    (f.context.pairs.filter fun p => !p.2.isEmpty).map fun p => "  " ++ p.1 ++ ": " ++ p.2

/-- What a fault says. -/
def text (f : StageFault) : String :=
  "\n".intercalate f.lines

/-- The image a fault names. -/
def image (f : StageFault) : Option String :=
  (f.context.get? "image").filter (!·.isEmpty)

/-- Fills in what the context does not know. -/
def annotate (f : StageFault) (pairs : List (String × String)) : StageFault :=
  { f with context := f.context.annotate pairs }

/-- The fault as a JSON object. -/
def toJson (f : StageFault) : Json.Value :=
  .object ([("code", .text f.code.id), ("message", .text f.text), ("context", f.context.toJson)] ++
    match f.hint with
    | none => []
    | some h => [("hint", .text h)])

end StageFault

/-- The kinds of refusals of the operating system. -/
inductive RefusalKind where
  | missing
  | denied
  | present
  | notDirectory
  | isDirectory
  | brokenPipe
  | wouldBlock
  | interrupted
  | timedOut
  | noProcess
  | noChild
  | connectionAborted
  | connectionRefused
  | connectionReset
  | other
  deriving DecidableEq, Repr

/-- The kind of a refusal with a number. -/
def RefusalKind.ofNumber (n : Int) : RefusalKind :=
  if n = 2 then .missing
  else if n = 1 || n = 13 then .denied
  else if n = 17 then .present
  else if n = 20 then .notDirectory
  else if n = 21 then .isDirectory
  else if n = 32 || n = 108 then .brokenPipe
  else if n = 11 || n = 114 || n = 115 then .wouldBlock
  else if n = 4 then .interrupted
  else if n = 110 then .timedOut
  else if n = 3 then .noProcess
  else if n = 10 then .noChild
  else if n = 103 then .connectionAborted
  else if n = 111 then .connectionRefused
  else if n = 104 then .connectionReset
  else .other

/-- A refusal of the operating system: its number if it has one, what it says, and the names of the
files it is about. -/
structure Refusal where
  kind : RefusalKind
  number : Option Int
  message : String
  names : List String := []
  deriving DecidableEq, Repr

namespace Refusal

/-- A refusal with a number, of the kind that the number stands for. -/
def ofNumber (number : Int) (message : String) (names : List String) : Refusal :=
  ⟨.ofNumber number, some number, message, names⟩

/-- What a refusal says. -/
def text (r : Refusal) : String :=
  match r.number with
  | none => r.message
  | some n =>
    "[Errno " ++ String.ofList (Decimal.text n) ++ "] " ++ r.message ++
      if r.names.isEmpty then "" else ": " ++ " -> ".intercalate (r.names.map Text.quoted)

/-- Whether a refusal says that what it is about is not there. -/
def isGone (r : Refusal) : Bool :=
  r.kind = .missing || r.number = some 2 || r.number = some 6 || r.number = some 19

end Refusal

/-- Something that goes wrong in a running program and has no fault of its own. -/
structure InternalFault where
  message : String
  /-- Whether it is the end of an iteration. -/
  endsIteration : Bool := false
  deriving DecidableEq, Repr

instance : Coe String InternalFault := ⟨fun message => { message }⟩

/-- A fault. -/
inductive Fault where
  /-- Of a stage. -/
  | stage (f : StageFault)
  /-- A refusal of the operating system. -/
  | refusal (r : Refusal)
  /-- A value outside what an operation takes. -/
  | badValue (message : String)
  /-- A number outside the range of the machine's words. -/
  | overflow (message : String)
  /-- Octets that are no text. -/
  | undecodable (message : String)
  /-- Anything else that goes wrong in a running program. -/
  | internal (f : InternalFault)
  /-- The user's wish to stop. -/
  | interruption (message : String)
  deriving DecidableEq, Repr

namespace Fault

/-- What a fault says. -/
def text : Fault → String
  | .stage f => f.text
  | .refusal r => r.text
  | .internal f => f.message
  | .badValue m | .overflow m | .undecodable m | .interruption m => m

/-- What a fault says without hint and context. -/
def message : Fault → String
  | .stage f => f.message
  | f => f.text

/-- Whether a fault says that what it is about is not there. -/
def isGone : Fault → Bool
  | .refusal r => r.isGone
  | _ => false

end Fault

/-- A fault and the faults that caused it, nearest first. -/
structure Failure where
  fault : Fault
  causes : List Fault := []
  deriving DecidableEq, Repr

namespace Failure

/-- The faults from the outermost to the first. -/
def chain (e : Failure) : List Fault :=
  e.fault :: e.causes

/-- A fault that a failure caused. -/
def caused (fault : Fault) (cause : Failure) : Failure :=
  ⟨fault, cause.chain⟩

/-- What a failure says. -/
def text (e : Failure) : String :=
  e.fault.text

/-- Every failure but an interruption is ordinary. -/
def isOrdinary (e : Failure) : Bool :=
  match e.fault with
  | .interruption _ => false
  | _ => true

/-- A failure as it leaves a routine that is suspended while others run. The end of an iteration
would be taken for the end of the routine there, so it leaves as a fault that it caused. -/
def escaped (e : Failure) : Failure :=
  match e.fault with
  | .internal f =>
    if f.endsIteration then .caused (.internal "generator raised StopIteration") e else e
  | _ => e

/-- Whether a failure, or one that led to it, says that what it is about is not there. -/
def isGone (e : Failure) : Bool :=
  e.chain.any Fault.isGone

/-- Whether a failure is a refusal of the operating system. -/
def isRefusal (e : Failure) : Bool :=
  match e.fault with
  | .refusal _ => true
  | _ => false

/-- Whether a failure is the refusal of what does not exist. -/
def isMissing (e : Failure) : Bool :=
  match e.fault with
  | .refusal r => r.kind = .missing
  | _ => false

/-- Fills in the context of a fault of a stage. -/
def annotate (e : Failure) (pairs : List (String × String)) : Failure :=
  match e.fault with
  | .stage f => { e with fault := .stage (f.annotate pairs) }
  | _ => e

@[simp]
theorem isOrdinary_escaped (e : Failure) : e.escaped.isOrdinary = e.isOrdinary := by
  obtain ⟨fault, causes⟩ := e
  cases fault with
  | internal f => by_cases h : f.endsIteration = true <;> simp [escaped, isOrdinary, caused, h]
  | _ => rfl

theorem escaped_of_not_ordinary {e : Failure} (h : e.isOrdinary = false) : e.escaped = e := by
  obtain ⟨fault, causes⟩ := e
  cases fault with
  | interruption m => rfl
  | _ => cases h

theorem isGone_iff {e : Failure} : e.isGone = true ↔ ∃ f ∈ e.chain, f.isGone = true := by
  simp [isGone]

/-- A fault of a stage under its own kind. -/
def ofStage (code : ErrorCode) (message : String) (hint : Option String)
    (context : List (String × String)) : Failure :=
  ⟨.stage { code, message, hint, context := ⟨context⟩ }, []⟩

/-- The failure of writing an integer with too many digits. -/
def tooLongToWrite : Failure :=
  ⟨.badValue Decimal.tooLongToWrite, []⟩

end Failure

/-- The code with an identifier, which fails for an identifier of none. -/
def ErrorCode.read (s : String) : Except Failure ErrorCode :=
  match ErrorCode.ofId? s with
  | some code => .ok code
  | none => .error ⟨.badValue (Text.quoted s ++ " is not a valid ErrorCode"), []⟩

/-- The text of an integer, which fails for too many digits. -/
def decimal (z : Int) : Except Failure String :=
  match Decimal.text? z with
  | some s => .ok s
  | none => .error .tooLongToWrite

end GuestImage
