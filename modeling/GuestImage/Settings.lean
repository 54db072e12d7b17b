import GuestImage.Text.Blank
import GuestImage.Text.Decimal
import GuestImage.Text.Occurrence

/-!
# Settings

Two settings come from the environment: the least size of an image in gibibytes, and whether tools
are called with privileges of their own. A value that cannot be used is as good as none.
-/

namespace GuestImage

/-- How tools get the privileges they need. -/
inductive Privilege where
  /-- They are called through `sudo` by whoever is not privileged. -/
  | sudo
  /-- They are called as they are. -/
  | none
  deriving DecidableEq, Repr

/-- The name of a way to get privileges. -/
def Privilege.name : Privilege → String
  | .sudo => "sudo"
  | .none => "none"

/-- The settings of a run. -/
structure Settings where
  /-- The least size in gibibytes, if it was set. -/
  minBaseSizeGb : Option Int := none
  privilege : Privilege := .sudo
  deriving DecidableEq, Repr

/-- A value that is given for the least size. A truth value would pass for an integer. -/
inductive GivenSize where
  | integer (gb : Int)
  | truth (b : Bool)
  | other
  deriving DecidableEq, Repr

/-- The number of gibibytes that is given: a truth value is none. -/
def GivenSize.gb? : GivenSize → Option Int
  | .integer gb => some gb
  | .truth _ => none
  | .other => none

namespace Settings

/-- The settings that are given. -/
def ofGiven (size : GivenSize) (privilege : Privilege) : Settings :=
  { minBaseSizeGb := size.gb?, privilege }

/-- The variable that sets the least size. -/
def minBaseSizeVariable : String := "BASEFS_BASE_IMAGE_MIN_SIZE_GB"

/-- The variable that sets the privileges. -/
def privilegeVariable : String := "BASEFS_PRIVILEGE"

/-- The lower bound of the least size in gibibytes. -/
def minBaseSizeLow : Int := 1

/-- The upper bound of the least size in gibibytes. -/
def minBaseSizeHigh : Int := 100

/-- Whether a number of gibibytes is within bounds. -/
def inRange (gb : Int) : Bool :=
  minBaseSizeLow ≤ gb && gb ≤ minBaseSizeHigh

/-- A text without the sign it may start with, and whether the sign is a minus. -/
def unsign : List Char → Bool × List Char
  | '+' :: ds => (false, ds)
  | '-' :: ds => (true, ds)
  | ds => (false, ds)

/-- The integer of an ASCII text: a sign that may be left out, and one to `Decimal.maxDigits`
digits. -/
def readInt? (s : List Char) : Option Int :=
  let (negative, ds) := unsign s
  if ds.isEmpty || !ds.all Char.isDigit then none
  else (Decimal.value? ds).map fun n => if negative then -(n : Int) else n

/-- The least size that a text sets, if it is an integer within bounds between blank characters. -/
def readMinBaseSize? (raw : Option String) : Option Int :=
  match raw with
  | none => none
  | some s => (readInt? (Text.trim s).toList).filter inRange

/-- The way to get privileges that a text names, blind to blank characters around it and to case;
`sudo` for any other text. Only ASCII letters have these as their lower case. -/
def readPrivilege (raw : Option String) : Privilege :=
  match raw with
  | none => .sudo
  | some s =>
    if String.ofList (Text.lowerAscii (Text.trim s).toList) = Privilege.none.name then .none
    else .sudo

/-- The settings in an environment. -/
def ofEnvironment (value? : String → Option String) : Settings :=
  { minBaseSizeGb := readMinBaseSize? (value? minBaseSizeVariable)
    privilege := readPrivilege (value? privilegeVariable) }

end Settings

end GuestImage
