import GuestImage.Provisioning
import Mathlib.Algebra.Group.Nat.Defs
import Mathlib.Tactic.SplitIfs

/-!
# The calls of a run

Every step of a run that needs a tool calls it once, and its outcome is a verdict on the answer
(`Consults`): `mount_consults`, `unmount_consults` and the like say so for each. Whatever else a
step does is writing to the log (`Logs`). What a step adds to the history, with the files before and
after it, is put together from that of its parts (`Adds`).

Where a body is followed by a release, the outcome of both is the first error (`firstError`), and
the release is made once (`settle_eq`).
-/

namespace GuestImage

variable {σ α β : Type}

/-- One call was made from one state of a run to another, and after it some other events were
noted. -/
structure Call.Between (c : Call) (argv : List String) (more : List Event) (w w' : Run σ) :
    Prop where
  argv : c.argv = argv
  before : c.before = w.files
  after : w'.files = c.after
  history : w'.history = w.history ++ .called c :: more

/-- Steps that only write to the log, note some events, and have an outcome. -/
def Logs (act : Procedure σ α) (outcome : Except Failure α) (more : List Event) : Prop :=
  ∀ w, (act w).1 = outcome ∧ (act w).2.files = w.files ∧ (act w).2.history = w.history ++ more

/-- What a step comes to, from the files before it: the events it adds to the history, its outcome,
and the files after it. -/
def Adds (step : Procedure σ α)
    (P : FileSystem → List Event → Except Failure α → FileSystem → Prop) : Prop :=
  ∀ w, ∃ events, (step w).2.history = w.history ++ events ∧
    P w.files events (step w).1 (step w).2.files

/-- A step that makes one call, and whose outcome is a verdict on the answer. -/
def Consults (step : Procedure σ α) (argv : List String)
    (verdict : ToolResult → Except Failure α) : Prop :=
  ∀ w, ∃ c : Call, c.Between argv [] w (step w).2 ∧ (step w).1 = c.outcome.bind verdict

/-- A step that makes one call and then only logs, with a verdict on the answer. -/
def Asks (runner : Runner σ) (step : Procedure σ α) (argv : List String)
    (verdict : ToolResult → Except Failure α) : Prop :=
  ∃ f, step = (Procedure.call runner argv none >>= f) ∧ ∀ r, Logs (f r) (verdict r) []

/-- An integer with no more digits than can be written. -/
def Writable (z : Int) : Prop :=
  (Decimal.digits z.natAbs).length ≤ Decimal.maxDigits

instance (z : Int) : Decidable (Writable z) :=
  inferInstanceAs (Decidable (_ ≤ _))

/-- The failure of a call, which names the status it was answered with. -/
def refusal (r : ToolResult) (failure : String → Failure) : Failure :=
  match decimal r.exitStatus with
  | .ok status => failure status
  | .error e => e

/-- The first error of a body and of the release after it. Only an interruption of the release is
never set aside. -/
def firstError : Except Failure α → Except Failure Unit → Except Failure α
  | .ok a, .ok () => .ok a
  | .ok _, .error r => .error r.escaped
  | .error e, .ok () => .error e
  | .error e, .error r => if r.isOrdinary then .error e else .error r

/-- A step that is steps on the files, with failures of its own. -/
structure FileStep (act : FileAction β) (step : Procedure σ β) : Prop where
  files : ∀ w, (step w).2.files = (act w.files).2
  history : ∀ w, (step w).2.history = w.history
  ok : ∀ w b, (step w).1 = .ok b ↔ (act w.files).1 = .ok b

theorem bind_eq_ok {x : Except Failure β} {f : β → Except Failure α} {a : α} :
    x.bind f = .ok a ↔ ∃ b, x = .ok b ∧ f b = .ok a := by
  cases x with
  | error e => simp [Except.bind]
  | ok b => simp [Except.bind]

theorem mapError_eq_ok {x : Except Failure α} {f : Failure → Failure} {a : α} :
    x.mapError f = .ok a ↔ x = .ok a := by
  cases x <;> simp [Except.mapError]

theorem mapError_eq_error {x : Except Failure α} {f : Failure → Failure} {e : Failure} :
    x.mapError f = .error e ↔ ∃ e', x = .error e' ∧ f e' = e := by
  cases x <;> simp [Except.mapError]

theorem firstError_eq_ok {held : Except Failure α} {released : Except Failure Unit} {a : α} :
    firstError held released = .ok a ↔ held = .ok a ∧ released = .ok () := by
  rcases held with e | b <;> rcases released with r | u
  · by_cases hr : r.isOrdinary = true <;> simp [firstError, hr]
  · simp [firstError]
  · simp [firstError]
  · simp [firstError]

/-- The failure of a body is the first error, unless the release after it is interrupted. -/
theorem firstError_error {e : Failure} {released : Except Failure Unit}
    (ordinary : ∀ r, released = .error r → r.isOrdinary = true) :
    firstError (.error e : Except Failure α) released = .error e := by
  rcases released with r | _
  · simp [firstError, ordinary r rfl]
  · rfl

section Digits

variable {z : Int}

theorem decimal_of_writable (h : Writable z) :
    decimal z = .ok (String.ofList (Decimal.text z)) := by
  unfold decimal Decimal.text?
  rw [if_pos (show _ ≤ _ from h)]

theorem decimal_of_not_writable (h : ¬Writable z) : decimal z = .error .tooLongToWrite := by
  unfold decimal Decimal.text?
  rw [if_neg (show ¬_ ≤ _ from h)]

theorem writable_of_lt (h : z.natAbs < 2 ^ 64) : Writable z := by
  have hlt : z.natAbs < 10 ^ Decimal.maxDigits := calc
    z.natAbs < 2 ^ 64 := h
    _ ≤ 10 ^ 64 := Nat.pow_le_pow_left (by decide) 64
    _ ≤ 10 ^ Decimal.maxDigits := Nat.pow_le_pow_right (by decide) (by decide)
  exact (Nat.length_toDigits_le_iff (by decide) (by decide)).2 hlt

theorem writable_zero : Writable 0 :=
  writable_of_lt (by decide)

theorem writable_of_ok {r : ToolResult} (h : r.ok = true) : Writable r.exitStatus := by
  have hzero : r.exitStatus = 0 := by simpa [ToolResult.ok] using h
  exact hzero ▸ writable_zero

/-- A call that was not answered with zero is taken for a failure, or its status is too long to be
told. -/
theorem refusal_cases {P : Failure → Prop} (r : ToolResult) {failure : String → Failure}
    (h : ∀ status, P (failure status)) :
    (Writable r.exitStatus ∧ P (refusal r failure)) ∨
      ¬Writable r.exitStatus ∧ refusal r failure = .tooLongToWrite := by
  unfold refusal
  by_cases hwritable : Writable r.exitStatus
  · rw [decimal_of_writable hwritable]
    exact .inl ⟨hwritable, h _⟩
  · rw [decimal_of_not_writable hwritable]
    exact .inr ⟨hwritable, rfl⟩

end Digits

section Logs

theorem logs_ofExcept (outcome : Except Failure α) :
    Logs (Action.ofExcept outcome : Procedure σ α) outcome [] :=
  fun w => ⟨rfl, rfl, (List.append_nil w.history).symm⟩

theorem logs_pure (a : α) : Logs (pure a : Procedure σ α) (.ok a) [] :=
  logs_ofExcept (.ok a)

theorem logs_throw (e : Failure) : Logs (throw e : Procedure σ α) (.error e) [] :=
  logs_ofExcept (.error e)

theorem logs_record (r : LogRecord) : Logs (Procedure.record r : Procedure σ Unit) (.ok ()) [] :=
  fun w => ⟨rfl, rfl, (List.append_nil w.history).symm⟩

theorem logs_note (event : Event) :
    Logs (Procedure.note event : Procedure σ Unit) (.ok ()) [event] :=
  fun _ => ⟨rfl, rfl, rfl⟩

theorem Logs.bind {act : Procedure σ α} {f : α → Procedure σ β} {a : α}
    {outcome : Except Failure β} {more more' : List Event} (h : Logs act (.ok a) more)
    (hf : Logs (f a) outcome more') : Logs (act >>= f) outcome (more ++ more') := by
  intro w
  obtain ⟨ho, hfiles, hhistory⟩ := h w
  rw [Action.bind_apply]
  generalize act w = x at ho hfiles hhistory
  obtain ⟨o, w'⟩ := x
  obtain rfl : o = .ok a := ho
  obtain ⟨ho', hfiles', hhistory'⟩ := hf w'
  refine ⟨ho', hfiles'.trans hfiles, ?_⟩
  rw [hhistory', hhistory, List.append_assoc]

theorem Logs.bind_error {act : Procedure σ α} {f : α → Procedure σ β} {e : Failure}
    {more : List Event} (h : Logs act (.error e) more) : Logs (act >>= f) (.error e) more := by
  intro w
  obtain ⟨ho, hfiles, hhistory⟩ := h w
  rw [Action.bind_apply]
  generalize act w = x at ho hfiles hhistory
  obtain ⟨o, w'⟩ := x
  obtain rfl : o = .error e := ho
  exact ⟨rfl, hfiles, hhistory⟩

theorem logs_record_bind {r : LogRecord} {act : Procedure σ α} {outcome : Except Failure α}
    {more : List Event} (h : Logs act outcome more) :
    Logs (Procedure.record r >>= fun _ => act) outcome more :=
  (logs_record r).bind h

theorem Adds.after_logs {act : Procedure σ β} {b : β} {f : β → Procedure σ α}
    {P : FileSystem → List Event → Except Failure α → FileSystem → Prop}
    (h : Logs act (.ok b) []) (hf : Adds (f b) P) : Adds (act >>= f) P := by
  intro w
  obtain ⟨ho, hfiles, hhistory⟩ := h w
  rw [Action.bind_apply]
  generalize act w = x at ho hfiles hhistory
  obtain ⟨o, w'⟩ := x
  obtain rfl : o = .ok b := ho
  obtain ⟨events, hevents, hp⟩ := hf w'
  have hfiles : w'.files = w.files := hfiles
  have hhistory : w'.history = w.history := hhistory.trans (List.append_nil _)
  exact ⟨events, hhistory ▸ hevents, hfiles ▸ hp⟩

theorem Adds.mono {step : Procedure σ α}
    {P Q : FileSystem → List Event → Except Failure α → FileSystem → Prop} (h : Adds step P)
    (hpq : ∀ fs events o fs', P fs events o fs' → Q fs events o fs') : Adds step Q := by
  intro w
  obtain ⟨events, hevents, hp⟩ := h w
  exact ⟨events, hevents, hpq _ _ _ _ hp⟩

theorem Logs.adds {act : Procedure σ α} {outcome : Except Failure α} {more : List Event}
    (h : Logs act outcome more) :
    Adds act fun fs events o fs' => events = more ∧ o = outcome ∧ fs' = fs := by
  intro w
  obtain ⟨ho, hfiles, hhistory⟩ := h w
  exact ⟨more, hhistory, rfl, ho, hfiles⟩

/-- What comes after a step is done only if the step does not fail. -/
theorem Adds.bind {act : Procedure σ β} {f : β → Procedure σ α}
    {P : FileSystem → List Event → Except Failure β → FileSystem → Prop}
    {Q : β → FileSystem → List Event → Except Failure α → FileSystem → Prop} (h : Adds act P)
    (hf : ∀ b, Adds (f b) (Q b)) :
    Adds (act >>= f) fun fs events o fs' =>
      (∃ e, P fs events (.error e) fs' ∧ o = .error e) ∨
        ∃ b mid before after, events = before ++ after ∧ P fs before (.ok b) mid ∧
          Q b mid after o fs' := by
  intro w
  obtain ⟨before, hbefore, hp⟩ := h w
  rw [Action.bind_apply]
  generalize act w = x at hbefore hp
  obtain ⟨o, w'⟩ := x
  cases o with
  | error e => exact ⟨before, hbefore, .inl ⟨e, hp, rfl⟩⟩
  | ok b =>
    obtain ⟨after, hafter, hq⟩ := hf b w'
    refine ⟨before ++ after, ?_, .inr ⟨b, w'.files, before, after, rfl, hp, hq⟩⟩
    have hbefore : w'.history = w.history ++ before := hbefore
    exact hafter.trans (by rw [hbefore, List.append_assoc])

theorem FileStep.after_logs {act : FileAction β} {first : Procedure σ α} {a : α}
    {f : α → Procedure σ β} (h : Logs first (.ok a) []) (hf : FileStep act (f a)) :
    FileStep act (first >>= f) := by
  have happly : ∀ w : Run σ, ∃ w' : Run σ, (first >>= f) w = f a w' ∧ w'.files = w.files ∧
      w'.history = w.history := by
    intro w
    obtain ⟨ho, hfiles, hhistory⟩ := h w
    rw [Action.bind_apply]
    generalize first w = x at ho hfiles hhistory
    obtain ⟨o, w'⟩ := x
    obtain rfl : o = .ok a := ho
    exact ⟨w', rfl, hfiles, hhistory.trans (List.append_nil _)⟩
  constructor
  · intro w
    obtain ⟨w', heq, hfiles, -⟩ := happly w
    rw [heq, hf.files, hfiles]
  · intro w
    obtain ⟨w', heq, -, hhistory⟩ := happly w
    rw [heq, hf.history, hhistory]
  · intro w b
    obtain ⟨w', heq, hfiles, -⟩ := happly w
    rw [heq, hf.ok, hfiles]

/-- Steps that only log leave the outcome to a verdict on what came before them. -/
theorem bind_logs {act : Procedure σ β} {f : β → Procedure σ α}
    (verdict : β → Except Failure α) (hf : ∀ b, Logs (f b) (verdict b) []) (w : Run σ) :
    ((act >>= f) w).1 = (act w).1.bind verdict ∧ ((act >>= f) w).2.files = (act w).2.files ∧
      ((act >>= f) w).2.history = (act w).2.history := by
  rw [Action.bind_apply]
  rcases act w with ⟨e | b, w'⟩
  · exact ⟨rfl, rfl, rfl⟩
  · obtain ⟨ho, hfiles, hhistory⟩ := hf b w'
    rw [List.append_nil] at hhistory
    exact ⟨ho, hfiles, hhistory⟩

theorem Adds.before_logs {act : Procedure σ β} {f : β → Procedure σ α}
    {verdict : β → Except Failure α}
    {P : FileSystem → List Event → Except Failure β → FileSystem → Prop} (h : Adds act P)
    (hf : ∀ b, Logs (f b) (verdict b) []) :
    Adds (act >>= f) fun fs events o fs' => ∃ o', P fs events o' fs' ∧ o = o'.bind verdict := by
  intro w
  obtain ⟨events, hevents, hp⟩ := h w
  obtain ⟨ho, hfiles, hhistory⟩ := bind_logs _ hf w
  exact ⟨events, hhistory.trans hevents, _, hfiles ▸ hp, ho⟩

theorem Adds.attempt_bind {act : Procedure σ β} {f : Except Failure β → Procedure σ α}
    {P : FileSystem → List Event → Except Failure β → FileSystem → Prop}
    {R : Except Failure β → Except Failure α → Prop} (h : Adds act P)
    (hf : ∀ o w, R o (f o w).1 ∧ (f o w).2.files = w.files ∧ (f o w).2.history = w.history) :
    Adds (Action.attempt act >>= f) fun fs events o' fs' =>
      ∃ o, P fs events o fs' ∧ R o o' := by
  intro w
  obtain ⟨events, hevents, hp⟩ := h w
  obtain ⟨hr, hfiles, hhistory⟩ := hf (act w).1 (act w).2
  exact ⟨events, hhistory.trans hevents, _, hfiles ▸ hp, hr⟩

theorem logs_refusal (r : ToolResult) (failure : String → Failure) :
    Logs (do throw (failure (← Action.ofExcept (decimal r.exitStatus))) : Procedure σ α)
      (.error (refusal r failure)) [] := by
  have hstatus := logs_ofExcept (σ := σ) (decimal r.exitStatus)
  unfold refusal
  rcases hdecimal : decimal r.exitStatus with e | status
  · rw [hdecimal] at hstatus
    exact hstatus.bind_error
  · rw [hdecimal] at hstatus
    exact hstatus.bind (logs_throw _)

theorem fileStep_of_logs {act : FileAction β} {f : Except Failure β → Procedure σ β}
    (hok : ∀ b, Logs (f (.ok b)) (.ok b) [])
    (herror : ∀ e, ∃ e', Logs (f (.error e)) (.error e') []) :
    FileStep act (Action.attempt (Procedure.onFiles act) >>= f) := by
  have hrun : ∀ w : Run σ, ∃ outcome, Logs (f (act w.files).1) outcome [] ∧
      ∀ b, outcome = .ok b ↔ (act w.files).1 = .ok b := by
    intro w
    rcases (act w.files).1 with e | b
    · obtain ⟨e', he'⟩ := herror e
      exact ⟨_, he', by simp⟩
    · exact ⟨_, hok b, fun _ => Iff.rfl⟩
  have happly : ∀ w : Run σ, (Action.attempt (Procedure.onFiles act) >>= f) w =
      f (act w.files).1 { w with files := (act w.files).2 } := fun w => Action.bind_apply _ f w
  constructor
  · intro w
    obtain ⟨outcome, hlogs, -⟩ := hrun w
    rw [happly]
    exact (hlogs _).2.1
  · intro w
    obtain ⟨outcome, hlogs, -⟩ := hrun w
    rw [happly]
    exact (hlogs _).2.2.trans (List.append_nil _)
  · intro w b
    obtain ⟨outcome, hlogs, hiff⟩ := hrun w
    rw [happly, (hlogs _).1]
    exact hiff b

end Logs

section Call

theorem call_between (runner : Runner σ) (argv : List String) (stdin : Option ByteStream)
    (w : Run σ) :
    ∃ c : Call, c.Between argv [] w (Procedure.call runner argv stdin w).2 ∧
      (Procedure.call runner argv stdin w).1 = c.outcome :=
  ⟨⟨argv, _, _, w.files, _⟩, ⟨rfl, rfl, rfl, rfl⟩, rfl⟩

/-- A call, and steps after it that only log: the outcome is a verdict on the answer. -/
theorem call_bind (runner : Runner σ) (argv : List String) (stdin : Option ByteStream)
    {f : ToolResult → Procedure σ α} {verdict : ToolResult → Except Failure α}
    {more : ToolResult → List Event} (hf : ∀ r, Logs (f r) (verdict r) (more r)) (w : Run σ) :
    ∃ c : Call,
      c.Between argv (match c.outcome with | .ok r => more r | .error _ => []) w
        ((Procedure.call runner argv stdin >>= f) w).2 ∧
      ((Procedure.call runner argv stdin >>= f) w).1 = c.outcome.bind verdict := by
  rw [Action.bind_apply]
  unfold Procedure.call
  generalize runner.run argv stdin (w.runner, w.files) = answer
  obtain ⟨⟨outcome, consumed⟩, state, files⟩ := answer
  refine ⟨⟨argv, consumed, outcome, w.files, files⟩, ?_⟩
  cases outcome with
  | error e => exact ⟨⟨rfl, rfl, rfl, rfl⟩, rfl⟩
  | ok r =>
    obtain ⟨ho, hfiles, hhistory⟩ := hf r
      { w with
        runner := state
        files
        history := w.history ++ [.called ⟨argv, consumed, .ok r, w.files, files⟩] }
    refine ⟨⟨rfl, rfl, hfiles, ?_⟩, ho⟩
    rw [hhistory, List.append_assoc]
    rfl

theorem consults_of_logs (runner : Runner σ) (argv : List String) (stdin : Option ByteStream)
    {f : ToolResult → Procedure σ α} (verdict : ToolResult → Except Failure α)
    (hf : ∀ r, Logs (f r) (verdict r) []) :
    Consults (Procedure.call runner argv stdin >>= f) argv verdict := by
  intro w
  obtain ⟨c, hc, ho⟩ := call_bind runner argv stdin hf w
  refine ⟨c, ?_, ho⟩
  cases hanswer : c.outcome with
  | error => simpa [hanswer] using hc
  | ok => simpa [hanswer] using hc

theorem Asks.consults {runner : Runner σ} {step : Procedure σ α} {argv : List String}
    {verdict : ToolResult → Except Failure α} (h : Asks runner step argv verdict) :
    Consults step argv verdict := by
  obtain ⟨f, rfl, hf⟩ := h
  exact consults_of_logs runner argv none verdict hf

theorem Asks.outcome_eq {runner : Runner σ} {step : Procedure σ α} {argv : List String}
    {verdict : ToolResult → Except Failure α} (h : Asks runner step argv verdict) (w : Run σ) :
    (step w).1 = (Procedure.call runner argv none w).1.bind verdict := by
  obtain ⟨f, rfl, hf⟩ := h
  exact (bind_logs verdict hf w).1

theorem Consults.after_logs {act : Procedure σ β} {b : β} {f : β → Procedure σ α}
    {argv : List String} {verdict : ToolResult → Except Failure α} (h : Logs act (.ok b) [])
    (hf : Consults (f b) argv verdict) : Consults (act >>= f) argv verdict := by
  intro w
  obtain ⟨ho, hfiles, hhistory⟩ := h w
  rw [Action.bind_apply]
  generalize act w = x at ho hfiles hhistory
  obtain ⟨o, w'⟩ := x
  obtain rfl : o = .ok b := ho
  obtain ⟨c, hc, hout⟩ := hf w'
  rw [List.append_nil] at hhistory
  exact ⟨c, ⟨hc.argv, hc.before.trans hfiles, hc.after, hhistory ▸ hc.history⟩, hout⟩

theorem Consults.adds {step : Procedure σ α} {argv : List String}
    {verdict : ToolResult → Except Failure α} (h : Consults step argv verdict) :
    Adds step fun fs events o fs' => ∃ c : Call, events = [.called c] ∧ c.argv = argv ∧
      c.before = fs ∧ fs' = c.after ∧ o = c.outcome.bind verdict := by
  intro w
  obtain ⟨c, hc, ho⟩ := h w
  exact ⟨[.called c], hc.history, c, rfl, hc.argv, hc.before, hc.after, ho⟩

end Call

section Release

/-- A body and a release after it, whose failures are logged where they are not the outcome. -/
theorem settle_eq (release : Procedure σ Unit) (listen : Failure → Procedure σ Unit)
    (hlisten : ∀ e, Logs (listen e) (.ok ()) []) (body : Procedure σ α) (w : Run σ) :
    (settle release (some listen) body w).1 =
        ⟨firstError (body w).1 (release (body w).2).1, (release (body w).2).1.isOk⟩ ∧
      (settle release (some listen) body w).2.files = (release (body w).2).2.files ∧
      (settle release (some listen) body w).2.history = (release (body w).2).2.history := by
  unfold settle
  rcases body w with ⟨e | a, w₁⟩
  · dsimp only
    rcases release w₁ with ⟨r | _, w₂⟩
    · dsimp only
      obtain ⟨ho, hfiles, hhistory⟩ := hlisten r w₂
      rw [List.append_nil] at hhistory
      split
      · rename_i hordinary
        generalize listen r w₂ = x at ho hfiles hhistory
        obtain ⟨o, w₃⟩ := x
        obtain rfl : o = .ok () := ho
        exact ⟨by simp [firstError, hordinary]; rfl, hfiles, hhistory⟩
      · rename_i hordinary
        exact ⟨by simp [firstError, hordinary]; rfl, rfl, rfl⟩
    · exact ⟨rfl, rfl, rfl⟩
  · dsimp only
    rcases release w₁ with ⟨r | _, w₂⟩
    · exact ⟨rfl, rfl, rfl⟩
    · exact ⟨rfl, rfl, rfl⟩

theorem releaseAfter_eq (release : Procedure σ Unit) (listen : Failure → Procedure σ Unit)
    (hlisten : ∀ e, Logs (listen e) (.ok ()) []) (body : Procedure σ α) (w : Run σ) :
    (releaseAfter release (some listen) body w).1 =
        firstError (body w).1 (release (body w).2).1 ∧
      (releaseAfter release (some listen) body w).2.files = (release (body w).2).2.files ∧
      (releaseAfter release (some listen) body w).2.history = (release (body w).2).2.history := by
  obtain ⟨ho, hfiles, hhistory⟩ := settle_eq release listen hlisten body w
  exact ⟨congrArg Settled.outcome ho, hfiles, hhistory⟩

theorem Adds.releaseAfter {body : Procedure σ α} {release : Procedure σ Unit}
    {listen : Failure → Procedure σ Unit}
    {P : FileSystem → List Event → Except Failure α → FileSystem → Prop}
    {R : FileSystem → List Event → Except Failure Unit → FileSystem → Prop}
    (hbody : Adds body P) (hrelease : Adds release R) (hlisten : ∀ e, Logs (listen e) (.ok ()) []) :
    Adds (releaseAfter release (some listen) body) fun fs events o fs' =>
      ∃ before after held released mid, events = before ++ after ∧ P fs before held mid ∧
        R mid after released fs' ∧ o = firstError held released := by
  intro w
  obtain ⟨ho, hfiles, hhistory⟩ := releaseAfter_eq release listen hlisten body w
  obtain ⟨before, hbefore, hp⟩ := hbody w
  obtain ⟨after, hafter, hr⟩ := hrelease (body w).2
  refine ⟨before ++ after, ?_, before, after, _, _, _, rfl, hp, hfiles ▸ hr, ho⟩
  rw [hhistory, hafter, hbefore, List.append_assoc]

end Release

namespace Population

/-- The call that mounts an image on a directory. -/
def mountArgv (image : Image) (mountpoint : Path) : List String :=
  ["mount", "-o", "loop", image.fsPath.text, mountpoint.text]

/-- The verdict on the answer of the call that mounts. -/
def mountVerdict (image : Image) (mountpoint : Path) (r : ToolResult) : Except Failure Unit :=
  if r.ok then .ok () else .error (refusal r (mountFailure image mountpoint r))

/-- The verdict on the answer of the call that unmounts. -/
def unmountVerdict (image : Image) (mountpoint : Path) (r : ToolResult) : Except Failure Unit :=
  if r.ok || r.isGone then .ok () else .error (refusal r (unmountFailure image mountpoint r))

variable (runner : Runner σ) (image : Image) (mountpoint : Path)

theorem mount_asks :
    Asks runner (mount runner image mountpoint) (mountArgv image mountpoint)
      (mountVerdict image mountpoint) := by
  refine ⟨_, rfl, fun r => ?_⟩
  unfold mountVerdict
  split
  · exact logs_pure ()
  · exact logs_record_bind (logs_refusal r _)

theorem mount_consults :
    Consults (mount runner image mountpoint) (mountArgv image mountpoint)
      (mountVerdict image mountpoint) :=
  (mount_asks runner image mountpoint).consults

theorem unmount_asks :
    Asks runner (unmount runner image mountpoint) ["umount", mountpoint.text]
      (unmountVerdict image mountpoint) := by
  refine ⟨_, rfl, fun r => ?_⟩
  unfold unmountVerdict
  split
  · exact logs_pure ()
  · exact logs_refusal r _

theorem unmount_consults :
    Consults (unmount runner image mountpoint) ["umount", mountpoint.text]
      (unmountVerdict image mountpoint) :=
  (unmount_asks runner image mountpoint).consults

end Population

namespace Unpacker

/-- The verdict on the answer of the call that unpacks. -/
def tarVerdict (target : Path) (arguments : List String) (r : ToolResult) : Except Failure Unit :=
  if r.ok then .ok ()
  else .error (refusal r (callFailure target (argv target arguments) r))

/-- The closing of the stream of a source after a call that was given it: its outcome, and the files
after it. -/
def closing (source : Source) (c : Call) : Except Failure Unit × FileSystem :=
  Action.change source.closeStream c.after

/-- What the call that unpacks comes to, and the closing of the stream after it. -/
def tarOutcome (source : Source) (target : Path) (arguments : List String) (c : Call) :
    Except Failure Unit :=
  (closing source c).1.bind fun _ => c.outcome.bind (tarVerdict target arguments)

/-- The verdict on the release of a source, which may be gone. -/
def releaseVerdict : Except Failure Unit → Except Failure Unit
  | .ok () => .ok ()
  | .error e =>
    if !e.isOrdinary then .error e else if !e.isGone then .error (releaseFailure e) else .ok ()

variable (runner : Runner σ) (source : Source) (target : Path) (arguments : List String)
  (w : Run σ)

theorem withStream_unopened {body : ByteStream → Procedure σ α} {e : Failure}
    (h : source.openStream w.files = .error e) :
    Procedure.withStream source body w = (.error e, w) := by
  unfold Procedure.withStream
  rw [Action.bind_apply, Procedure.onFiles_apply, Action.query_apply]
  simp only [h]

/-- Where the stream of a source opens, it is closed after the steps on it. The failure to close it
takes the place of their outcome. -/
theorem withStream_opened {body : ByteStream → Procedure σ α} {stream : ByteStream}
    (h : source.openStream w.files = .ok stream) :
    let during := body stream { w with history := w.history ++ [.streamOpened] }
    let closing := Action.change source.closeStream during.2.files
    Procedure.withStream source body w =
      (closing.1.bind fun _ => during.1,
        { during.2 with
          files := closing.2
          history := during.2.history ++ [.streamClosed] }) := by
  unfold Procedure.withStream
  rw [Action.bind_apply, Procedure.onFiles_apply, Action.query_apply]
  simp only [h, Action.bind_apply, Procedure.note_apply, Action.attempt_apply,
    Procedure.onFiles_apply, Action.ofExcept_apply]
  generalize Action.change source.closeStream _ = closing
  rcases closing with ⟨_ | _, _⟩ <;> rfl

theorem runTar_unopened {e : Failure} (h : source.openStream w.files = .error e) :
    runTar runner arguments source target w = (.error (openFailure target e), w) := by
  unfold runTar
  rw [Action.bind_apply, withStream_unopened (e := openFailure target e)]
  simp only [h, Except.mapError]

/-- Where the stream of a source opens, the tool is called once, while it is open. -/
theorem runTar_opened {stream : ByteStream} (h : source.openStream w.files = .ok stream) :
    ∃ c : Call, c.argv = argv target arguments ∧ c.before = w.files ∧
      (runTar runner arguments source target w).2.files = (closing source c).2 ∧
      (runTar runner arguments source target w).2.history =
        w.history ++ [.streamOpened, .called c, .streamClosed] ∧
      (runTar runner arguments source target w).1 = tarOutcome source target arguments c := by
  let reported := { source with
    openStream := fun fs => (source.openStream fs).mapError (openFailure target) }
  have hreported : reported.openStream w.files = .ok stream := by
    simp only [reported, h, Except.mapError]
  obtain ⟨ho, hfiles, hhistory⟩ :
      (runTar runner arguments source target w).1 =
          (Procedure.withStream reported (fun stream =>
            Procedure.call runner (argv target arguments) (some stream)) w).1.bind
            (tarVerdict target arguments) ∧
        (runTar runner arguments source target w).2.files =
          (Procedure.withStream reported (fun stream =>
            Procedure.call runner (argv target arguments) (some stream)) w).2.files ∧
        (runTar runner arguments source target w).2.history =
          (Procedure.withStream reported (fun stream =>
            Procedure.call runner (argv target arguments) (some stream)) w).2.history := by
    refine bind_logs _ (fun r => ?_) w
    unfold tarVerdict
    split
    · exact logs_pure ()
    · dsimp only
      split
      · exact logs_record_bind (logs_refusal r _)
      · exact logs_refusal r _
  rw [withStream_opened reported w hreported] at ho hfiles hhistory
  obtain ⟨c, hc, hout⟩ := call_between runner (argv target arguments) (some stream)
    { w with history := w.history ++ [.streamOpened] }
  refine ⟨c, hc.argv, hc.before, hfiles.trans ?_, hhistory.trans ?_, ho.trans ?_⟩
  · rw [closing, ← hc.after]
  · simp [hc.history]
  · rw [tarOutcome, closing, ← hc.after, ← hout]
    cases (Action.change source.closeStream _).1 <;> rfl

theorem release_eq :
    (release source w).1 = releaseVerdict (Action.change source.release w.files).1 ∧
      (release source w).2.files = (Action.change source.release w.files).2 ∧
      (release source w).2.history = w.history ++ [.sourceReleased] := by
  obtain ⟨ho, hfiles, hhistory⟩ :
      (release source w).1 =
          (Action.attempt (Procedure.releaseSource source) w).1.bind releaseVerdict ∧
        (release source w).2.files = (Action.attempt (Procedure.releaseSource source) w).2.files ∧
        (release source w).2.history =
          (Action.attempt (Procedure.releaseSource source) w).2.history := by
    refine bind_logs _ (fun o => ?_) w
    unfold releaseVerdict
    rcases o with e | _
    · dsimp only
      split
      · exact (logs_throw e).bind_error
      · split
        · exact (logs_throw _).bind_error
        · exact logs_record _
    · exact logs_pure ()
  exact ⟨ho, hfiles, hhistory⟩

/-- What unpacking a source into a directory comes to, from the files before it: the events it adds
to the history, its outcome, and the files after it. -/
inductive Unpacks (source : Source) (target : Path) (fs : FileSystem) :
    Unpacker → List Event → Except Failure Unit → FileSystem → Prop
  | unopened {arguments : List String} {e : Failure} (refused : source.openStream fs = .error e) :
    Unpacks source target fs (.tar arguments) [.sourceReleased]
      (firstError (.error (openFailure target e))
        (releaseVerdict (Action.change source.release fs).1))
      (Action.change source.release fs).2
  | opened {arguments : List String} {stream : ByteStream} {c : Call}
      (opens : source.openStream fs = .ok stream) (argv : c.argv = argv target arguments)
      (before : c.before = fs) :
    Unpacks source target fs (.tar arguments)
      [.streamOpened, .called c, .streamClosed, .sourceReleased]
      (firstError (tarOutcome source target arguments c)
        (releaseVerdict (Action.change source.release (closing source c).2).1))
      (Action.change source.release (closing source c).2).2
  | steps (unpack : Source → Path → FileAction Unit)
      (records : Source → Path → FileSystem → Log) :
    Unpacks source target fs (.steps unpack records) [] (unpack source target fs).1
      (unpack source target fs).2

theorem exists_unpacks (unpacker : Unpacker) :
    ∃ events, (unpack runner unpacker source target w).2.history = w.history ++ events ∧
      Unpacks source target w.files unpacker events (unpack runner unpacker source target w).1
        (unpack runner unpacker source target w).2.files := by
  cases unpacker with
  | steps unpack records => exact ⟨[], (List.append_nil _).symm, .steps unpack records⟩
  | tar arguments =>
    obtain ⟨ho, hfiles, hhistory⟩ := releaseAfter_eq (release source) recordSuppressed
      (fun _ => logs_record _) (runTar runner arguments source target) w
    obtain ⟨hrelease, hreleaseFiles, hreleaseHistory⟩ :=
      release_eq source (runTar runner arguments source target w).2
    rw [hrelease] at ho
    rw [hreleaseFiles] at hfiles
    rw [hreleaseHistory] at hhistory
    unfold unpack
    dsimp only
    rw [ho, hfiles, hhistory]
    rcases hopen : source.openStream w.files with e | stream
    · rw [runTar_unopened runner source target arguments w hopen]
      exact ⟨_, rfl, .unopened hopen⟩
    · obtain ⟨c, hargv, hbefore, hafter, htar, hout⟩ :=
        runTar_opened runner source target arguments w hopen
      rw [hafter, htar, hout, List.append_assoc]
      exact ⟨_, rfl, .opened hopen hargv hbefore⟩

end Unpacker

namespace Allocation

/-- The verdict on the answer of the call that formats. -/
def formatVerdict (image : Image) (r : ToolResult) : Except Failure Path :=
  if r.ok then .ok image.fsPath
  else .error (refusal r (formatFailure image (formatArgv image.fsPath.text) r))

variable (runner : Runner σ) (image : Image) (size : Int)

theorem allocate_step : FileStep (allocateFile image size) (allocate (σ := σ) image size) := by
  refine fileStep_of_logs (fun _ => logs_pure ()) fun e => ?_
  dsimp only
  split
  · rcases hsize : decimal size with e' | text
    · have htext := logs_ofExcept (σ := σ) (decimal size)
      rw [hsize] at htext
      exact ⟨e', logs_record_bind htext.bind_error⟩
    · exact ⟨_, logs_record_bind ((logs_ofExcept (.ok text)).bind (logs_throw _))⟩
  · exact ⟨e, logs_throw e⟩

end Allocation

namespace LoopDevice

/-- The verdict on the answer of the call that attaches: the device that it reports. -/
def attachVerdict (path : String) (readOnly : Bool) (image : Option String) (r : ToolResult) :
    Except Failure LoopDevice :=
  if r.ok then
    match reported? r.stdout with
    | none => .error (noDevice path image)
    | some device => .ok ⟨device, Path.ofText path, readOnly⟩
  else .error (refusal r (attachFailure path image r))

/-- The verdict on the answer of the call that detaches. -/
def detachVerdict (device : LoopDevice) (image : Option String) (r : ToolResult) :
    Except Failure Unit :=
  if r.ok || r.isGone then .ok () else .error (refusal r (detachFailure device image r))

variable (runner : Runner σ) (path : String) (readOnly : Bool) (image : Option String)
  (device : LoopDevice)

theorem detach_consults :
    Consults (detach runner device image) ["losetup", "--detach", device.path]
      (detachVerdict device image) := by
  refine consults_of_logs runner _ none _ fun r => ?_
  unfold detachVerdict
  split
  · rename_i hok
    rw [hok, Bool.true_or, if_pos rfl]
    exact logs_record _
  · rename_i hok
    rw [Bool.not_eq_true] at hok
    rw [hok, Bool.false_or]
    split
    · exact logs_record _
    · exact logs_refusal r _

theorem attach_call (w : Run σ) :
    ∃ c : Call, c.Between (attachArgv path readOnly)
        (match c.outcome with
          | .ok r => if r.ok then ((reported? r.stdout).map .deviceAttached).toList else []
          | .error _ => [])
        w (attach runner path readOnly image w).2 ∧
      (attach runner path readOnly image w).1 =
        c.outcome.bind (attachVerdict path readOnly image) := by
  refine call_bind runner _ none (fun r => ?_) w
  unfold attachVerdict
  by_cases hok : r.ok = true
  · simp only [hok, Bool.not_true, Bool.false_eq_true, if_false, if_true]
    rcases reported? r.stdout with _ | device
    · exact logs_throw _
    · exact (logs_note _).bind (logs_record_bind (logs_pure _))
  · simp only [hok, Bool.not_false, Bool.false_eq_true, if_false, if_true]
    exact logs_refusal r _

end LoopDevice

namespace Shrinking

/-- The verdict on the answer of the check: only a status that cannot be written is a failure. -/
def checkVerdict (r : ToolResult) : Except Failure Unit :=
  if r.ok || correctedStatuses.contains r.exitStatus then .ok ()
  else (decimal r.exitStatus).map fun _ => ()

/-- The verdict on the answer of the call that asks for the least size: the number that it says. -/
def estimateVerdict (image : Image) (device : LoopDevice) (r : ToolResult) : Except Failure Nat :=
  if r.ok then
    match TrailingNumber.read (estimateText r) with
    | .error e => .error (e.annotate [("image", image.uid), ("device", device.path)])
    | .ok blocks => (decimal blocks).map fun _ => blocks
  else .error (refusal r (estimateFailure image device r))

/-- The verdict on the answer of the call that resizes. -/
def resizeVerdict (image : Image) (device : LoopDevice) (blocks : String) (r : ToolResult) :
    Except Failure Unit :=
  if r.ok then .ok () else .error (refusal r (resizeFailure image device blocks r))

variable (runner : Runner σ) (image : Image) (device : LoopDevice)

theorem check_consults :
    Consults (check runner image device) ["e2fsck", "-p", "-f", device.path] checkVerdict := by
  refine consults_of_logs runner _ none _ fun r => ?_
  unfold checkVerdict
  by_cases hok : r.ok = true
  · rw [hok, Bool.true_or, if_pos rfl, if_pos rfl]
    exact logs_pure ()
  rw [Bool.not_eq_true] at hok
  rw [hok, Bool.false_or, if_neg Bool.false_ne_true]
  split
  · exact logs_record _
  · have hstatus := logs_ofExcept (σ := σ) (decimal r.exitStatus)
    rcases hdecimal : decimal r.exitStatus with e | status
    · rw [hdecimal] at hstatus
      exact hstatus.bind_error
    · exact (logs_ofExcept (.ok status)).bind (logs_record _)

theorem exists_estimate_asks :
    ∃ (record : LogRecord) (ask : Procedure σ Nat),
      estimate runner image device = (Procedure.record record >>= fun _ => ask) ∧
        Asks runner ask ["resize2fs", "-P", device.path] (estimateVerdict image device) := by
  refine ⟨_, _, rfl, _, rfl, fun r => ?_⟩
  unfold estimateVerdict
  by_cases hok : r.ok = true
  · simp only [hok, Bool.not_true, Bool.false_eq_true, if_false, if_true]
    rcases TrailingNumber.read (estimateText r) with e | blocks
    · dsimp only
      split
      · exact logs_record_bind (logs_throw _)
      · rename_i hfault
        have hannotate : e.annotate [("image", image.uid), ("device", device.path)] = e := by
          unfold Failure.annotate
          split
          · exact absurd ‹_› (hfault _)
          · rfl
        rw [hannotate]
        exact logs_throw e
    · dsimp only
      have htext := logs_ofExcept (σ := σ) (decimal blocks)
      rcases hdecimal : decimal blocks with e | text
      · rw [hdecimal] at htext
        exact htext.bind_error
      · exact (logs_ofExcept (.ok text)).bind (logs_record_bind (logs_pure blocks))
  · simp only [hok, Bool.not_false, Bool.false_eq_true, if_false, if_true]
    exact logs_record_bind (logs_refusal r _)

theorem estimate_consults :
    Consults (estimate runner image device) ["resize2fs", "-P", device.path]
      (estimateVerdict image device) := by
  obtain ⟨record, ask, heq, hasks⟩ := exists_estimate_asks runner image device
  rw [heq]
  exact .after_logs (logs_record record) hasks.consults

theorem truncate_step {minimum : MinimumSize} {text : String}
    (h : decimal minimum.bytes = .ok text) :
    FileStep (truncateFile image minimum.bytes) (truncate (σ := σ) image minimum) := by
  have htext : Logs (σ := σ) (Action.ofExcept (decimal minimum.bytes)) (.ok text) [] := by
    rw [h]
    exact logs_ofExcept _
  refine .after_logs htext (.after_logs (logs_record _) (fileStep_of_logs ?_ ?_))
  · exact fun _ => logs_pure ()
  · rintro ⟨fault, causes⟩
    cases fault with
    | refusal r => exact ⟨_, logs_record_bind (logs_throw _)⟩
    | _ => exact ⟨_, logs_throw _⟩

theorem truncate_history (minimum : MinimumSize) (w : Run σ) :
    (truncate image minimum w).2.history = w.history := by
  rcases hdecimal : decimal minimum.bytes with e | text
  · have hlogs : Logs (σ := σ) (truncate image minimum) (.error e) [] := by
      refine Logs.bind_error ?_
      rw [hdecimal]
      exact logs_ofExcept _
    exact (hlogs w).2.2.trans (List.append_nil _)
  · exact (truncate_step image hdecimal).history w

theorem resize_consults {blocks : Nat} {text : String} (h : decimal blocks = .ok text) :
    Consults (resize runner image device blocks) ["resize2fs", device.path, text]
      (resizeVerdict image device text) := by
  have htext : Logs (σ := σ) (Action.ofExcept (decimal blocks)) (.ok text) [] := by
    rw [h]
    exact logs_ofExcept _
  refine .after_logs htext (consults_of_logs runner _ none _ fun r => ?_)
  unfold resizeVerdict
  split
  · exact logs_pure ()
  · exact logs_record_bind (logs_refusal r _)

end Shrinking

end GuestImage
