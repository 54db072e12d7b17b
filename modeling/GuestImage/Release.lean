import GuestImage.Action

/-!
# Releases

What a body holds is released after it, however it ends, and the first error wins: the failure of a
release is the outcome only if the body did not fail. A release that fails after the body has is
made known to a listener instead. An interruption is not ordinary and is never set aside, and what
the listener itself fails with takes the place of the rest.

The release is the end of a routine that is suspended while the body runs. What it fails with after
a body that did not, and what the listener fails with, leave that routine (`Failure.escaped`).
-/

namespace GuestImage

variable {S α : Type}

/-- How a body and the release after it ended: the outcome of both, and whether the release
succeeded. -/
structure Settled (α : Type) where
  outcome : Except Failure α
  released : Bool
  deriving Repr

/-- Runs a body, and then a release in any case. `onSuppressed` hears of an ordinary failure of
the release that comes after a failure of the body. -/
def settle (release : Action S Unit) (onSuppressed : Option (Failure → Action S Unit))
    (body : Action S α) : StateM S (Settled α) := fun s =>
  match body s with
  | (.ok a, s₁) =>
    match release s₁ with
    | (.ok (), s₂) => (⟨.ok a, true⟩, s₂)
    | (.error r, s₂) => (⟨.error r.escaped, false⟩, s₂)
  | (.error e, s₁) =>
    match release s₁ with
    | (.ok (), s₂) => (⟨.error e, true⟩, s₂)
    | (.error r, s₂) =>
      if r.isOrdinary then
        match onSuppressed with
        | none => (⟨.error e, false⟩, s₂)
        | some listen =>
          match listen r s₂ with
          | (.ok (), s₃) => (⟨.error e, false⟩, s₃)
          | (.error l, s₃) => (⟨.error l.escaped, false⟩, s₃)
      else (⟨.error r, false⟩, s₂)

/-- A body with a release after it. -/
def releaseAfter (release : Action S Unit) (onSuppressed : Option (Failure → Action S Unit))
    (body : Action S α) : Action S α := fun s =>
  ((settle release onSuppressed body s).1.outcome, (settle release onSuppressed body s).2)

/-- A release, and who hears of its failures. -/
structure Layer (S : Type) where
  release : Action S Unit
  onSuppressed : Option (Failure → Action S Unit) := none

/-- A body inside layers of releases, the outermost one first. -/
def releaseAll (layers : List (Layer S)) (body : Action S α) : Action S α :=
  layers.foldr (fun layer inner => releaseAfter layer.release layer.onSuppressed inner) body

@[simp]
theorem releaseAll_nil (body : Action S α) : releaseAll [] body = body := rfl

@[simp]
theorem releaseAll_cons (layer : Layer S) (layers : List (Layer S)) (body : Action S α) :
    releaseAll (layer :: layers) body =
      releaseAfter layer.release layer.onSuppressed (releaseAll layers body) := rfl

end GuestImage
