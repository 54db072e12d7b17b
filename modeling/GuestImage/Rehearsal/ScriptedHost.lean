import GuestImage.Command.Runner

/-!
# Scripted hosts

A scripted host answers every command in one way, whether it is captured or given input.
-/

namespace GuestImage.Rehearsal

/-- How a scripted host answers. -/
structure HostScript where
  exitStatus : Int := 0
  stdout : Option String := some ""
  stderr : Option String := some ""
  /-- What the start of a command fails with. -/
  startFailure : Option Failure := none
  /-- The pipe of a command that is given input. -/
  pipe : Option Pipe := some {}
  /-- What a command that is given input writes to its diagnostics. -/
  diagnostics : List UInt8 := []

/-- The host that answers by a script. -/
def HostScript.host (script : HostScript) (facts : HostFacts) : Host Unit :=
  { facts
    capture := fun _ s =>
      match script.startFailure with
      | some e => (.error e, s)
      | none => (.ok ⟨script.exitStatus, script.stdout, script.stderr⟩, s)
    spawn := fun _ s =>
      match script.startFailure with
      | some e => (.error e, s)
      | none =>
        (.ok ⟨script.pipe, fun _ s' => (⟨script.exitStatus, script.diagnostics⟩, s')⟩, s) }

end GuestImage.Rehearsal
