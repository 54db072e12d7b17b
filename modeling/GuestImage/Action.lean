import GuestImage.Failure.Basic

/-!
# Actions

An action reads and changes a state and ends in a value or a failure. A failure does not undo what
was done before it: the state an action leaves is there in either case.
-/

namespace GuestImage

/-- Steps that read and change a state and may fail. -/
abbrev Action (S : Type) := ExceptT Failure (StateM S)

namespace Action

variable {S T α : Type}

/-- An outcome, and nothing changed. -/
def ofExcept (outcome : Except Failure α) : Action S α := fun s => (outcome, s)

/-- A question about the state. -/
def query (f : S → Except Failure α) : Action S α := fun s => (f s, s)

/-- A change of the state that changes nothing where it fails. -/
def change (f : S → Except Failure S) : Action S Unit := fun s =>
  match f s with
  | .ok s' => (.ok (), s')
  | .error e => (.error e, s)

/-- The outcome of an action, as a value also where it is a failure. -/
def attempt (act : Action S α) : Action S (Except Failure α) := fun s =>
  (.ok (act s).1, (act s).2)

/-- An action whose failures become others. -/
def mapFailure (f : Failure → Failure) (act : Action S α) : Action S α := fun s =>
  ((act s).1.mapError f, (act s).2)

/-- An action on a part of a state. -/
def focus (part : T → S) (withPart : T → S → T) (act : Action S α) : Action T α := fun t =>
  ((act (part t)).1, withPart t (act (part t)).2)

theorem pure_apply (a : α) (s : S) : (pure a : Action S α) s = (.ok a, s) := rfl

theorem get_apply (s : S) : (get : Action S S) s = (.ok s, s) := rfl

theorem modify_apply (f : S → S) (s : S) : (modify f : Action S PUnit) s = (.ok (), f s) := rfl

/-- What comes after an action goes on from the state it leaves, unless it failed. -/
theorem bind_apply {β : Type} (act : Action S α) (f : α → Action S β) (s : S) :
    (act >>= f) s =
      match act s with
      | (.ok a, s') => f a s'
      | (.error e, s') => (.error e, s') := by
  change (ExceptT.bindCont f (act s).1) (act s).2 = _
  rcases act s with ⟨_ | _, _⟩ <;> rfl

@[simp]
theorem ofExcept_apply (outcome : Except Failure α) (s : S) :
    (ofExcept outcome : Action S α) s = (outcome, s) := rfl

@[simp]
theorem query_apply (f : S → Except Failure α) (s : S) : query f s = (f s, s) := rfl

theorem change_apply_ok {f : S → Except Failure S} {s s' : S} (h : f s = .ok s') :
    change f s = (.ok (), s') := by
  simp [change, h]

theorem change_apply_error {f : S → Except Failure S} {s : S} {e : Failure} (h : f s = .error e) :
    change f s = (.error e, s) := by
  simp [change, h]

@[simp]
theorem attempt_apply (act : Action S α) (s : S) :
    attempt act s = (.ok (act s).1, (act s).2) := rfl

@[simp]
theorem mapFailure_apply (f : Failure → Failure) (act : Action S α) (s : S) :
    mapFailure f act s = ((act s).1.mapError f, (act s).2) := rfl

@[simp]
theorem focus_apply (part : T → S) (withPart : T → S → T) (act : Action S α) (t : T) :
    focus part withPart act t = ((act (part t)).1, withPart t (act (part t)).2) := rfl

end Action

end GuestImage
