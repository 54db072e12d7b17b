import GuestImage.Proofs.Announcing
import GuestImage.Proofs.Carrying
import GuestImage.Proofs.Moves

/-!
# Failures that name their image

The failure of a stage is of a kind of its own, and says what was done and to which image
(`Failure.Tells`). That of an unpacker is made to name the image afterwards (`Failure.Names`).

Not every failure is foreseen by a stage. When one is not, and that all others are of some kind, is
said together (`Strays`), and goes over from the parts of a step to the step: a verdict on a call
strays where the status that the call was answered with is too long to be told, and a release only
after a body that does not fail.
-/

namespace GuestImage

variable {σ α β : Type}

/-- A failure of a stage under a kind of its own, which names the step and the image. -/
def Failure.Tells (code : ErrorCode) (operation uid : String) (e : Failure) : Prop :=
  ∃ f, e.fault = .stage f ∧ f.code = code ∧ f.general = false ∧
    f.context.get? "operation" = some operation ∧ f.context.get? "image" = some uid

/-- A failure of a stage that names an image. -/
def Failure.Names (uid : String) (e : Failure) : Prop :=
  ∃ f, e.fault = .stage f ∧ f.image = some uid

/-- A refusal, or a failure of a stage that names no image yet. -/
def Failure.Unassigned (e : Failure) : Prop :=
  e.isRefusal = true ∨ ∃ f, e.fault = .stage f ∧ f.image = none

/-- A runner that answers every call, with a status that can be told. -/
def Runner.AnswersTold (runner : Runner σ) : Prop :=
  ∀ argv stdin s, ∃ r, (runner.run argv stdin s).1.outcome = .ok r ∧ Writable r.exitStatus

/-- Every call among some events was answered. -/
def AllAnswered (events : List Event) : Prop :=
  ∀ c, .called c ∈ events → ∃ r, c.outcome = .ok r

/-- The outcome is a failure that is of no stage. -/
def Astray (o : Except Failure α) : Prop :=
  ∃ e, o = .error e ∧ e.OutOfStage

/-- Under a condition the outcome is a failure of no stage, and else its failures are of a kind. -/
structure Strays (condition : Prop) (P : Failure → Prop) (o : Except Failure α) : Prop where
  astray : condition → Astray o
  fails : ¬condition → Fails P o

section Failures

variable {code : ErrorCode} {operation uid : String} {e : Failure} {f : StageFault}

theorem StageFault.image_of_get? (h : f.context.get? "image" = some uid) (known : uid ≠ "") :
    f.image = some uid := by
  simp [StageFault.image, h, known]

theorem Failure.Tells.names (h : e.Tells code operation uid) (known : uid ≠ "") :
    e.Names uid := by
  obtain ⟨f, hf, -, -, -, himage⟩ := h
  exact ⟨f, hf, StageFault.image_of_get? himage known⟩

theorem Failure.Tells.isOrdinary (h : e.Tells code operation uid) : e.isOrdinary = true := by
  obtain ⟨f, hf, -⟩ := h
  rw [Failure.isOrdinary, hf]

theorem StageFault.get?_annotate (h : f.image = none) :
    (f.annotate [("image", uid)]).context.get? "image" = some uid := by
  -- a text that is empty counts as none, and is filled in as well
  change (Context.fill "image" uid f.context.pairs).lookup "image" = some uid
  rw [Context.lookup_fill_self]
  cases hknown : f.context.pairs.lookup "image" with
  | none => rfl
  | some text =>
    have hempty : text.isEmpty = true := by
      simpa [StageFault.image, Context.get?, hknown] using h
    simp [hempty]

/-- A refusal that is reported as a failure of a step is the cause of it. -/
theorem tells_of_refusal {report : Failure → Failure} {message : String}
    (reports : ∀ r causes, report ⟨.refusal r, causes⟩ =
      .caused
        (.stage
          { code
            message
            context := ⟨[("image", uid), ("operation", operation), ("cause", r.text)]⟩ })
        ⟨.refusal r, causes⟩)
    (h : e.isRefusal = true) :
    (report e).Tells code operation uid ∧ (report e).causes = e.chain := by
  obtain ⟨fault, causes⟩ := e
  cases fault with
  | refusal r =>
    rw [reports]
    exact ⟨⟨_, rfl, rfl, rfl, rfl, rfl⟩, rfl⟩
  | _ => cases h

theorem Failure.Unassigned.names_annotate (h : e.Unassigned) (hrefusal : e.isRefusal = false)
    (known : uid ≠ "") : (e.annotate [("image", uid)]).Names uid := by
  rcases h with h | ⟨f, hf, hnone⟩
  · rw [hrefusal] at h
    cases h
  · rw [Failure.annotate, hf]
    exact ⟨_, rfl, StageFault.image_of_get? (StageFault.get?_annotate hnone) known⟩

theorem Failure.OutOfStage.escaped (h : e.OutOfStage) : e.escaped.OutOfStage := by
  obtain ⟨fault, causes⟩ := e
  cases fault with
  | internal f =>
    dsimp only [Failure.escaped]
    split_ifs
    · rintro f ⟨⟩
    · exact h
  | _ => exact h

theorem Failure.escaped_of_not_outOfStage (h : ¬e.OutOfStage) : e.escaped = e := by
  obtain ⟨fault, causes⟩ := e
  cases fault with
  | internal f => exact absurd (by rintro f ⟨⟩) h
  | _ => rfl

theorem Failure.Tells.escaped (h : e.Tells code operation uid) : e.escaped = e := by
  obtain ⟨f, hf, -⟩ := h
  exact escaped_of_not_outOfStage fun hout => hout f hf

end Failures

theorem Asks.fails {runner : Runner σ} {step : Procedure σ Unit} {argv : List String}
    {P : Failure → Prop} {verdict : ToolResult → Except Failure Unit}
    (h : Asks runner step argv verdict) (answers : runner.AnswersTold)
    (hverdict : ∀ r, Writable r.exitStatus → Fails P (verdict r)) (w : Run σ) :
    Fails P (step w).1 := by
  obtain ⟨r, hr, told⟩ := answers argv none (w.runner, w.files)
  rw [h.outcome_eq, show (Procedure.call runner argv none w).1 = .ok r from hr]
  exact hverdict r told

section Strays

variable {c c' : Prop} {P Q : Failure → Prop} {o : Except Failure α}

/-- A failure of a kind is of a stage, so there is another one exactly under the condition. -/
theorem Strays.fails_iff (h : Strays c P o) (staged : ∀ e, P e → ¬e.OutOfStage) :
    Fails P o ↔ ¬c := by
  refine ⟨fun hfails hc => ?_, h.fails⟩
  obtain ⟨e, he, hout⟩ := h.astray hc
  exact staged e (hfails e he) hout

theorem Strays.congr (h : Strays c P o) (hc : c' ↔ c) : Strays c' P o :=
  ⟨fun hc' => h.astray (hc.1 hc'), fun hc' => h.fails (mt hc.2 hc')⟩

theorem Strays.mono (h : Strays c P o) (hpq : ∀ e, o = .error e → P e → Q e) : Strays c Q o :=
  ⟨h.astray, fun hc e he => hpq e he (h.fails hc e he)⟩

theorem Strays.map (h : Strays c P o) (f : α → β) : Strays c P (o.map f) := by
  rcases o with e | a
  · refine ⟨fun hc => ?_, fun hc e he => ?_⟩
    · obtain ⟨e', he', hout⟩ := h.astray hc
      exact ⟨e', congrArg (Except.map f) he', hout⟩
    · obtain rfl := Except.error.inj he
      exact h.fails hc _ rfl
  · exact ⟨fun hc => (nomatch (h.astray hc).choose_spec.1), fun _ => fails_ok _⟩

theorem strays_ok (hc : ¬c) (a : α) : Strays c P (.ok a : Except Failure α) :=
  ⟨fun h => absurd h hc, fun _ => fails_ok a⟩

theorem Strays.error {e : Failure} (h : Strays c P (.error e : Except Failure α)) :
    Strays c P (.error e : Except Failure β) := by
  refine ⟨fun hc => ?_, fun hc => fails_error (h.fails hc e rfl)⟩
  obtain ⟨e', he', hout⟩ := h.astray hc
  exact ⟨e', congrArg _ (Except.error.inj he'), hout⟩

theorem strays_refusal (r : ToolResult) {failure : String → Failure}
    (h : ∀ status, P (failure status)) :
    Strays (¬Writable r.exitStatus) P (.error (refusal r failure) : Except Failure α) := by
  rcases refusal_cases r h with ⟨htold, hp⟩ | ⟨huntold, he⟩
  · exact ⟨fun hc => absurd htold hc, fun _ => fails_error hp⟩
  · exact ⟨fun _ => ⟨_, rfl, he ▸ nofun⟩, fun hc => absurd huntold hc⟩

theorem Strays.escaped (h : Strays c P o) (staged : ∀ e, P e → ¬e.OutOfStage) :
    Strays c P (o.mapError .escaped) := by
  rcases o with e | a
  · refine ⟨fun hc => ?_, fun hc => ?_⟩
    · obtain ⟨e', he', hout⟩ := h.astray hc
      obtain rfl := Except.error.inj he'
      exact ⟨_, rfl, hout.escaped⟩
    · have he : P e := h.fails hc e rfl
      exact fails_error (by rwa [Failure.escaped_of_not_outOfStage (staged e he)])
  · exact h

/-- The failure of a release comes to light only after a body that does not fail. -/
theorem Strays.firstError {held : Except Failure α} {released : Except Failure Unit}
    (hheld : Strays c P held) (hreleased : Strays c' P released)
    (staged : ∀ e, P e → ¬e.OutOfStage)
    (ordinary : ∀ e, released = .error e → e.isOrdinary = true) :
    Strays (c ∨ (∃ a, held = .ok a) ∧ c') P (firstError held released) := by
  rcases held with e | a
  · rw [firstError_error ordinary]
    exact hheld.congr (by simp)
  · have hnot : ¬c := fun hc => nomatch (hheld.astray hc).choose_spec.1
    have hreleased : Strays (c ∨ (∃ b, (.ok a : Except Failure α) = .ok b) ∧ c') P released :=
      hreleased.congr (by simp [hnot])
    rcases released with r | _
    · exact (hreleased.escaped staged).error
    · exact strays_ok (fun hc => nomatch (hreleased.astray hc).choose_spec.1) a

end Strays

/-- A runner that answers has answered every call in the end. -/
theorem carried_allAnswered {runner : Runner σ} (answers : runner.Answers) :
    Carried runner requiredTools fun w w' =>
      ∃ events, w'.history = w.history ++ events ∧ AllAnswered events where
  trans := by
    rintro w w' w'' ⟨before, hbefore, h⟩ ⟨after, hafter, h'⟩
    refine ⟨before ++ after, by rw [hafter, hbefore, List.append_assoc], fun c hc => ?_⟩
    exact (List.mem_append.1 hc).elim (h c) (h' c)
  aside _ hhistory := ⟨[], hhistory.trans (List.append_nil _).symm, fun c hc => nomatch hc⟩
  noted event w hevent := ⟨[event], rfl, fun c hc => absurd (List.mem_singleton.1 hc).symm
    (hevent c)⟩
  called tool _ arguments stdin w := by
    obtain ⟨c, hc, ho⟩ := call_between runner (tool :: arguments) stdin w
    refine ⟨[.called c], hc.history, fun c' hc' => ?_⟩
    obtain rfl := Event.called.inj (List.mem_singleton.1 hc')
    obtain ⟨r, hr⟩ := answers (tool :: arguments) stdin (w.runner, w.files)
    exact ⟨r, ho.symm.trans hr⟩

theorem allAnswered_of_keeps {act : Procedure σ α} {w : Run σ}
    {events : List Event}
    (h : Keeps (fun w w' => ∃ events, w'.history = w.history ++ events ∧ AllAnswered events) act)
    (hevents : (act w).2.history = w.history ++ events) : AllAnswered events := by
  obtain ⟨events', hevents', hanswered⟩ := h w
  rwa [List.append_cancel_left (hevents.symm.trans hevents')]

end GuestImage
