import GuestImage.Proofs.Records
import GuestImage.Proofs.Sizes

/-!
# Stages and their records

A run enters its stages one after the other (`Enters`) and ends in the first one that fails, or
after the last. Every stage is entered with a record of its start, and left with one of its end if
it did not fail, so that these records are in the log in the order of the stages however the run
ends (`Enters.marks`). The failure of a stage is reported with the stage that the log says the run
was in: that is the one that failed, whatever was in the log before (`provision_chronicle`).

The stages that were completed are read off the whole log. They are those of the run only if no
earlier run of the same image completed any (`provision_completed_iff`).
-/

namespace GuestImage.Provisioning

variable {σ : Type}

/-- The stages of a run. -/
inductive Stage where
  | plan
  | format
  | populate
  | shrink
  deriving DecidableEq, Repr

namespace Stage

def all : List Stage := [.plan, .format, .populate, .shrink]

def name : Stage → String
  | .plan => "plan"
  | .format => "format"
  | .populate => "populate"
  | .shrink => "shrink"

/-- The stages before a stage. -/
def before (s : Stage) : List Stage :=
  all.takeWhile (· ≠ s)

/-- What is done in a stage. -/
def work (runner : Runner σ) (settings : Settings) (unpacker : Unpacker) (image : Image)
    (source : Source) (dir : Path) : Stage → Procedure σ Unit
  | .plan => do
    let _ ← planSize (.ofSettings settings) image.size (some image.uid)
    return ()
  | .format => do
    let _ ← Allocation.build runner image ((SizePolicy.ofSettings settings).planned image.size)
    return ()
  | .populate => do
    let _ ← Population.populate runner unpacker dir image source
    return ()
  | .shrink => do
    let _ ← Shrinking.shrink runner image
    return ()

end Stage

/-- The record of the start of a stage. -/
def startOf (image : Image) (s : Stage) : LogRecord :=
  stageRecord image stageStart s.name (s.name ++ " start.")

/-- The record of the end of a stage. -/
def endOf (image : Image) (s : Stage) : LogRecord :=
  stageRecord image stageComplete s.name (s.name ++ " complete.")

/-- The records of stages that were gone through. -/
def throughout (image : Image) (stages : List Stage) : Log :=
  stages.flatMap fun s => [startOf image s, endOf image s]

def logged (r : LogRecord) (w : Run σ) : Run σ :=
  { w with log := w.log ++ [r] }

@[simp]
theorem log_logged (r : LogRecord) (w : Run σ) : (logged r w).log = w.log ++ [r] := rfl

/-- The run at the point where a stage is entered: the stages before it were done. -/
inductive Enters (runner : Runner σ) (settings : Settings) (unpacker : Unpacker) (image : Image)
    (source : Source) (dir : Path) (w : Run σ) : Stage → Run σ → Prop
  | plan :
    Enters runner settings unpacker image source dir w .plan (logged (startOf image .plan) w)
  | next {s s' : Stage} {w' : Run σ}
      (entered : Enters runner settings unpacker image source dir w s w')
      (done : (s.work runner settings unpacker image source dir w').1 = .ok ())
      (follows : s'.before = s.before ++ [s]) :
    Enters runner settings unpacker image source dir w s' (logged (startOf image s')
      (logged (endOf image s) (s.work runner settings unpacker image source dir w').2))

section Stages

variable (runner : Runner σ) (settings : Settings) {unpacker : Unpacker} {image : Image}
  (source : Source) (dir : Path) {w w' w'' : Run σ} {s : Stage}

theorem work_marksNothing (h : unpacker.Unmarked image) (s : Stage) :
    MarksNothing image (s.work runner settings unpacker image source dir) := by
  cases s with
  | plan => exact (planSize_marksNothing image _ _ _).bind fun _ => writes_pure _
  | format => exact (Allocation.build_marksNothing image runner _).bind fun _ => writes_pure _
  | populate =>
    exact (Population.populate_marksNothing image runner _ source h).bind fun _ => writes_pure _
  | shrink => exact (Shrinking.shrink_marksNothing image runner).bind fun _ => writes_pure _

@[simp]
theorem marksStage_startOf (image : Image) (s : Stage) :
    (startOf image s).marksStage image = true := by
  simp [LogRecord.marksStage, startOf, stageRecord]

@[simp]
theorem marksStage_endOf (image : Image) (s : Stage) :
    (endOf image s).marksStage image = true := by
  simp [LogRecord.marksStage, endOf, stageRecord]

theorem throughout_append_singleton (image : Image) (stages : List Stage) (s : Stage) :
    throughout image (stages ++ [s]) =
      throughout image stages ++ [startOf image s, endOf image s] := by
  simp [throughout]

theorem completedStages_throughout (image : Image) (stages : List Stage) :
    (throughout image stages).completedStages (some image.uid) =
      stages.map fun s => some s.name := by
  induction stages with
  | nil => rfl
  | cons s stages ih =>
    have hcons : throughout image (s :: stages) =
        [startOf image s, endOf image s] ++ throughout image stages := rfl
    rw [hcons, Log.completedStages_append, ih]
    simp [Log.completedStages, startOf, endOf, stageRecord, stageStart, stageComplete]

theorem marks_of_unmarked {more : Log} (h : ∀ r ∈ more, r.marksStage image = false) :
    more.filter (·.marksStage image) = [] := by
  simpa [List.filter_eq_nil_iff] using h

variable {runner settings source dir}

theorem Enters.log (h : Enters runner settings unpacker image source dir w s w') :
    ∃ before, w'.log = before ++ [startOf image s] := by
  cases h with
  | plan => exact ⟨_, rfl⟩
  | next => exact ⟨_, rfl⟩

theorem Enters.marks (hunmarked : unpacker.Unmarked image)
    (h : Enters runner settings unpacker image source dir w s w') :
    ∃ more, w'.log = w.log ++ more ∧
      more.filter (·.marksStage image) = throughout image s.before ++ [startOf image s] := by
  induction h with
  | plan => exact ⟨[startOf image .plan], rfl, by simp [Stage.before, Stage.all, throughout]⟩
  | @next s s' w' _ _ follows ih =>
    obtain ⟨more, hmore, hmarks⟩ := ih
    obtain ⟨own, hown, hnone⟩ := work_marksNothing runner settings source dir hunmarked s w'
    refine ⟨more ++ own ++ [endOf image s, startOf image s'], ?_, ?_⟩
    · simp [logged, hown, hmore]
    · rw [follows, throughout_append_singleton, List.filter_append, List.filter_append, hmarks,
        marks_of_unmarked hnone]
      simp

/-- What a run has written to the log after the work in a stage, and the stage that the log says the
image is in. -/
theorem Enters.after_work (hunmarked : unpacker.Unmarked image)
    (h : Enters runner settings unpacker image source dir w s w') {o : Except Failure Unit}
    (hwork : s.work runner settings unpacker image source dir w' = (o, w'')) :
    (∃ more, w''.log = w.log ++ more ∧
        more.filter (·.marksStage image) = throughout image s.before ++ [startOf image s]) ∧
      w''.log.currentStage (some image.uid) = some s.name := by
  obtain ⟨own, hown, hnone⟩ := work_marksNothing runner settings source dir hunmarked s w'
  have hown : w''.log = w'.log ++ own := by rw [← hown, hwork]
  constructor
  · obtain ⟨more, hmore, hmarks⟩ := h.marks hunmarked
    refine ⟨more ++ own, by rw [hown, hmore, List.append_assoc], ?_⟩
    rw [List.filter_append, hmarks, marks_of_unmarked hnone, List.append_nil]
  · obtain ⟨before, hbefore⟩ := h.log
    rw [hown, Log.currentStage_append_of_unmarked hnone, hbefore]
    exact Log.currentStage_append_start before (startOf image s) rfl

theorem Enters.next_of_work (h : Enters runner settings unpacker image source dir w s w')
    (hwork : s.work runner settings unpacker image source dir w' = (.ok (), w'')) {s' : Stage}
    (follows : s'.before = s.before ++ [s]) :
    Enters runner settings unpacker image source dir w s'
      (logged (startOf image s') (logged (endOf image s) w'')) := by
  have hnext := h.next (by rw [hwork]) follows
  rwa [hwork] at hnext

theorem stage_of_error {α : Type} {body : Procedure σ α} {e : Failure}
    (h : body (logged (startOf image s) w) = (.error e, w')) :
    stage image s.name body w = (.error e, w') := by
  unfold stage
  change (body >>= _) (logged (startOf image s) w) = _
  rw [Action.bind_apply, h]

theorem stage_of_ok {α : Type} {body : Procedure σ α} {a : α}
    (h : body (logged (startOf image s) w) = (.ok a, w')) :
    stage image s.name body w = (.ok a, logged (endOf image s) w') := by
  unfold stage
  change (body >>= _) (logged (startOf image s) w) = _
  rw [Action.bind_apply, h]
  rfl

theorem discard_apply {α : Type} (act : Procedure σ α) (w : Run σ) :
    (do let _ ← act; return () : Procedure σ Unit) w = ((act w).1.map fun _ => (), (act w).2) := by
  rw [Action.bind_apply]
  rcases act w with ⟨_ | _, _⟩ <;> rfl

variable (runner settings unpacker image source dir)

/-- A stage that was entered fails, or what comes after it goes on from its end. -/
theorem stage_bind_cases {α β : Type} (s : Stage) {body : Procedure σ α}
    (f : α → Procedure σ β) (w : Run σ)
    (hwork : s.work runner settings unpacker image source dir = do let _ ← body; return ()) :
    (∃ e w', s.work runner settings unpacker image source dir (logged (startOf image s) w) =
          (.error e, w') ∧ (stage image s.name body >>= f) w = (.error e, w')) ∨
      ∃ a w', body (logged (startOf image s) w) = (.ok a, w') ∧
        s.work runner settings unpacker image source dir (logged (startOf image s) w) =
          (.ok (), w') ∧
        (stage image s.name body >>= f) w = f a (logged (endOf image s) w') := by
  rw [hwork, discard_apply, Action.bind_apply]
  rcases hbody : body (logged (startOf image s) w) with ⟨e | a, w'⟩
  · exact .inl ⟨e, w', rfl, by rw [stage_of_error hbody]⟩
  · exact .inr ⟨a, w', rfl, rfl, by rw [stage_of_ok hbody]⟩

/-- The stages end in the first one that fails, or after the last. -/
theorem stages_cases (w : Run σ) :
    (∃ s w' e w'', Enters runner settings unpacker image source dir w s w' ∧
        s.work runner settings unpacker image source dir w' = (.error e, w'') ∧
        stages runner settings unpacker image source dir w = (.error e, w'')) ∨
      ∃ w' w'' report, Enters runner settings unpacker image source dir w .shrink w' ∧
        Stage.shrink.work runner settings unpacker image source dir w' = (.ok (), w'') ∧
        stages runner settings unpacker image source dir w =
          (.ok report, logged (endOf image .shrink) w'') := by
  have hplan : Enters runner settings unpacker image source dir w .plan _ := .plan
  rcases stage_bind_cases runner settings unpacker image source dir .plan _ w rfl with
    ⟨e, w₁, hfails, hends⟩ | ⟨allocated, w₁, hplanned, hdone, hplanEnds⟩
  · exact .inl ⟨_, _, e, w₁, hplan, hfails, hends⟩
  -- `Stage.work` formats with the size that the policy gives: it is the one that planning returned
  obtain rfl : (SizePolicy.ofSettings settings).planned image.size = allocated := by
    have hsize := (logs_planSize settings image.size (some image.uid)
      (logged (startOf image .plan) w)).1
    rw [hplanned] at hsize
    exact (Except.ok.inj hsize).symm
  have hformat : Enters runner settings unpacker image source dir w .format _ :=
    hplan.next_of_work hdone rfl
  rcases stage_bind_cases runner settings unpacker image source dir .format _
      (logged (endOf image .plan) w₁) rfl with
    ⟨e, w₂, hfails, hends⟩ | ⟨path, w₂, -, hdone, hformatEnds⟩
  · exact .inl ⟨_, _, e, w₂, hformat, hfails, hplanEnds.trans hends⟩
  have hpopulate : Enters runner settings unpacker image source dir w .populate _ :=
    hformat.next_of_work hdone rfl
  rcases stage_bind_cases runner settings unpacker image source dir .populate _
      (logged (endOf image .format) w₂) rfl with
    ⟨e, w₃, hfails, hends⟩ | ⟨linked, w₃, -, hdone, hpopulateEnds⟩
  · exact .inl ⟨_, _, e, w₃, hpopulate, hfails, hplanEnds.trans (hformatEnds.trans hends)⟩
  have hshrink : Enters runner settings unpacker image source dir w .shrink _ :=
    hpopulate.next_of_work hdone rfl
  rcases stage_bind_cases runner settings unpacker image source dir .shrink _
      (logged (endOf image .populate) w₃) rfl with
    ⟨e, w₄, hfails, hends⟩ | ⟨minimum, w₄, -, hdone, hends⟩
  · exact .inl ⟨_, _, e, w₄, hshrink, hfails,
      hplanEnds.trans (hformatEnds.trans (hpopulateEnds.trans hends))⟩
  · exact .inr ⟨_, w₄, _, hshrink, hdone,
      hplanEnds.trans (hformatEnds.trans (hpopulateEnds.trans hends))⟩

end Stages

/-- The run once the tools were checked. -/
def checked (unpacker : Option Unpacker) (preflight : Bool) (w : Run σ) : Run σ :=
  { w with history := w.history ++ checkedEvents unpacker preflight }

/-- The record of a run that failed in a stage. -/
def failureRecord (image : Image) (s : Stage) (f : StageFault)
    (completed : List (Option String)) : LogRecord where
  operation := "provision"
  image := some image.uid
  stage := some s.name
  message := "Image import failed: " ++ f.message
  level := "error"
  extra := some (.object
    [("code", .text f.code.id), ("completed", .list (completed.map .ofText?))])

/-- The record of a run that was completed. -/
def successRecord (image : Image) (report : Report) : LogRecord where
  operation := "provision"
  image := some image.uid
  stage := none
  message := "Image filesystem provisioned."
  level := "info"
  extra := some (.object
    [("final_bytes", .int report.finalBytes), ("min_blocks", .int report.minimum.blocks)])

/-- A run is refused before it starts, ends in a stage that fails, or after the last one. -/
inductive Ends (runner : Runner σ) (settings : Settings) (unpacker : Option Unpacker)
    (preflight : Bool) (image : Image) (source : Source) (dir : Path) (w : Run σ) :
    Except Failure Report × Run σ → Prop
  | unready {e : Failure} (checks : preflight = true)
      (refused : runner.ensureAvailable (toolsFor unpacker) w.runner = .error e) :
    Ends runner settings unpacker preflight image source dir w
      (.error e, checked unpacker preflight w)
  | failed {s : Stage} {w' w'' : Run σ} {f : StageFault} {causes : List Fault}
      (entered : Enters runner settings (unpacker.getD (.tar [])) image source dir
        (checked unpacker preflight w) s w')
      (fails : s.work runner settings (unpacker.getD (.tar [])) image source dir w' =
        (.error ⟨.stage f, causes⟩, w'')) :
    Ends runner settings unpacker preflight image source dir w
      (.error ⟨.stage (f.annotate [("stage", s.name)]), causes⟩,
        logged (failureRecord image s f (w''.log.completedStages (some image.uid))) w'')
  | broken {s : Stage} {w' w'' : Run σ} {e : Failure}
      (entered : Enters runner settings (unpacker.getD (.tar [])) image source dir
        (checked unpacker preflight w) s w')
      (fails : s.work runner settings (unpacker.getD (.tar [])) image source dir w' =
        (.error e, w''))
      (other : ∀ f, e.fault ≠ .stage f) :
    Ends runner settings unpacker preflight image source dir w (.error e, w'')
  | provisioned {w' w'' : Run σ} {report : Report}
      (entered : Enters runner settings (unpacker.getD (.tar [])) image source dir
        (checked unpacker preflight w) .shrink w')
      (done : Stage.shrink.work runner settings (unpacker.getD (.tar [])) image source dir w' =
        (.ok (), w'')) :
    Ends runner settings unpacker preflight image source dir w
      (.ok report, logged (successRecord image report) (logged (endOf image .shrink) w''))

section Outcome

variable {runner : Runner σ} {settings : Settings} {unpacker : Option Unpacker} {preflight : Bool}
  {image : Image} {source : Source} {dir : Path} {w w' : Run σ} {e : Failure}

theorem provision_unready (checks : preflight = true)
    (refused : runner.ensureAvailable (toolsFor unpacker) w.runner = .error e) :
    provision runner settings unpacker preflight image source dir w =
      (.error e, checked unpacker preflight w) := by
  subst checks
  unfold provision
  simp only [if_true, Action.bind_apply, Procedure.ensureAvailable, refused]
  rfl

theorem provision_ready
    (ready : preflight = true → runner.ensureAvailable (toolsFor unpacker) w.runner = .ok ()) :
    provision runner settings unpacker preflight image source dir w =
      provision runner settings unpacker false image source dir (checked unpacker preflight w) := by
  cases preflight with
  | false => simp [checked, checkedEvents]
  | true =>
    unfold provision
    simp only [if_true, Action.bind_apply, Procedure.ensureAvailable, ready rfl]
    rfl

theorem provision_of_ok {report : Report}
    (h : stages runner settings (unpacker.getD (.tar [])) image source dir w = (.ok report, w')) :
    provision runner settings unpacker false image source dir w =
      (.ok report, logged (successRecord image report) w') := by
  unfold provision
  simp only [Bool.false_eq_true, if_false, Action.bind_apply, Action.attempt_apply, h]
  rfl

theorem provision_of_other (other : ∀ f, e.fault ≠ .stage f)
    (h : stages runner settings (unpacker.getD (.tar [])) image source dir w = (.error e, w')) :
    provision runner settings unpacker false image source dir w = (.error e, w') := by
  unfold provision
  simp only [Bool.false_eq_true, if_false, Action.bind_apply, Action.attempt_apply, h]
  rcases e with ⟨fault, causes⟩
  cases fault with
  | stage f => exact absurd rfl (other f)
  | _ => rfl

theorem provision_of_fault {s : Stage} {f : StageFault} {causes : List Fault}
    (h : stages runner settings (unpacker.getD (.tar [])) image source dir w =
      (.error ⟨.stage f, causes⟩, w'))
    (current : w'.log.currentStage (some image.uid) = some s.name) :
    provision runner settings unpacker false image source dir w =
      (.error ⟨.stage (f.annotate [("stage", s.name)]), causes⟩,
        logged (failureRecord image s f (w'.log.completedStages (some image.uid))) w') := by
  unfold provision
  simp only [Bool.false_eq_true, if_false, Action.bind_apply, Action.attempt_apply, h,
    recordFailure, Action.get_apply, Procedure.record_apply, current]
  rfl

variable (runner settings unpacker preflight image source dir w)

theorem provision_ends (hunmarked : (unpacker.getD (.tar [])).Unmarked image) :
    Ends runner settings unpacker preflight image source dir w
      (provision runner settings unpacker preflight image source dir w) := by
  by_cases ready : preflight = true →
      runner.ensureAvailable (toolsFor unpacker) w.runner = .ok ()
  · rw [provision_ready ready]
    rcases stages_cases runner settings (unpacker.getD (.tar [])) image source dir
        (checked unpacker preflight w) with
      ⟨s, w', e, w'', entered, fails, ends⟩ | ⟨w', w'', report, entered, done, ends⟩
    · by_cases other : ∀ f, e.fault ≠ .stage f
      · rw [provision_of_other other ends]
        exact .broken entered fails other
      · rcases e with ⟨fault, causes⟩
        obtain ⟨f, rfl⟩ : ∃ f, fault = .stage f := by simpa using other
        rw [provision_of_fault ends (entered.after_work hunmarked fails).2]
        exact .failed entered fails
    · rw [provision_of_ok ends]
      exact .provisioned entered done
  · obtain ⟨checks, hrefused⟩ := Classical.not_imp.1 ready
    rcases refused : runner.ensureAvailable (toolsFor unpacker) w.runner with e | _
    · rw [provision_unready checks refused]
      exact .unready checks refused
    · exact absurd refused hrefused

end Outcome

/-- A fault in which the text of a key was filled in if it was not known, and nothing else was
changed. -/
structure Filled (key value : String) (f f' : StageFault) : Prop where
  same : f' = { f with context := f'.context }
  keys : f'.context.keys =
    if key ∈ f.context.keys then f.context.keys else f.context.keys ++ [key]
  filled : f'.context.get? key = some (match f.context.get? key with
    | none => value
    | some known => if known.isEmpty then value else known)
  others : ∀ other, other ≠ key → f'.context.get? other = f.context.get? other

theorem filled_annotate (key value : String) (f : StageFault) :
    Filled key value f (f.annotate [(key, value)]) where
  same := rfl
  keys := Context.map_fst_fill key value f.context.pairs
  filled := Context.lookup_fill_self key value f.context.pairs
  others _ h := Context.lookup_fill_of_ne value h f.context.pairs

/-- How a run ends and what it writes to the log. -/
inductive Chronicle (runner : Runner σ) (settings : Settings) (unpacker : Option Unpacker)
    (preflight : Bool) (image : Image) (source : Source) (dir : Path) (w : Run σ) :
    Except Failure Report → Log → Prop
  /-- A tool cannot be called. -/
  | unready {e : Failure} (checks : preflight = true)
      (refused : runner.ensureAvailable (toolsFor unpacker) w.runner = .error e) :
    Chronicle runner settings unpacker preflight image source dir w (.error e) []
  /-- A stage fails with a fault of a stage, which is made to name the stage. -/
  | failed {s : Stage} {w' w'' : Run σ} {f f' : StageFault} {causes : List Fault} {more : Log}
      {completed : List (Option String)}
      (entered : Enters runner settings (unpacker.getD (.tar [])) image source dir
        (checked unpacker preflight w) s w')
      (fails : s.work runner settings (unpacker.getD (.tar [])) image source dir w' =
        (.error ⟨.stage f, causes⟩, w''))
      (wrote : w''.log = w.log ++ more)
      (marks : (more ++ [failureRecord image s f completed]).filter (·.marksStage image) =
        throughout image s.before ++ [startOf image s])
      (named : Filled "stage" s.name f f') :
    Chronicle runner settings unpacker preflight image source dir w (.error ⟨.stage f', causes⟩)
      (more ++ [failureRecord image s f completed])
  /-- A stage fails in another way. -/
  | broken {s : Stage} {w' w'' : Run σ} {e : Failure} {more : Log}
      (entered : Enters runner settings (unpacker.getD (.tar [])) image source dir
        (checked unpacker preflight w) s w')
      (fails : s.work runner settings (unpacker.getD (.tar [])) image source dir w' =
        (.error e, w''))
      (other : ∀ f, e.fault ≠ .stage f)
      (marks : more.filter (·.marksStage image) = throughout image s.before ++ [startOf image s]) :
    Chronicle runner settings unpacker preflight image source dir w (.error e) more
  /-- All stages are gone through. -/
  | provisioned {w' w'' : Run σ} {report : Report} {more : Log}
      (entered : Enters runner settings (unpacker.getD (.tar [])) image source dir
        (checked unpacker preflight w) .shrink w')
      (done : Stage.shrink.work runner settings (unpacker.getD (.tar [])) image source dir w' =
        (.ok (), w''))
      (wrote : w''.log ++ [endOf image .shrink] = w.log ++ more)
      (marks : (more ++ [successRecord image report]).filter (·.marksStage image) =
        throughout image Stage.all) :
    Chronicle runner settings unpacker preflight image source dir w (.ok report)
      (more ++ [successRecord image report])

/-- An archive with nothing in it. -/
def emptyArchive : Source :=
  .ofStream ⟨[], none⟩

section Chronicle

variable (runner : Runner σ) (settings : Settings) (unpacker : Option Unpacker)
  (preflight : Bool) (image : Image) (source : Source) (dir : Path) (w : Run σ)

/-- A run ends in the stage that its records say, and whatever was in the log before, that is the
stage its failure names. -/
theorem provision_chronicle (hunmarked : (unpacker.getD (.tar [])).Unmarked image) :
    ∃ more,
      (provision runner settings unpacker preflight image source dir w).2.log = w.log ++ more ∧
      Chronicle runner settings unpacker preflight image source dir w
        (provision runner settings unpacker preflight image source dir w).1 more := by
  have hends := provision_ends runner settings unpacker preflight image source dir w hunmarked
  generalize provision runner settings unpacker preflight image source dir w = x at hends
  cases hends with
  | unready checks refused => exact ⟨[], (List.append_nil _).symm, .unready checks refused⟩
  | @failed s _ w'' f _ entered fails =>
    obtain ⟨⟨more, hmore, hmarks⟩, -⟩ := entered.after_work hunmarked fails
    have hlast : ∀ completed, (failureRecord image s f completed).marksStage image = false :=
      fun _ => rfl
    refine ⟨more ++ [failureRecord image s f (w''.log.completedStages (some image.uid))], ?_,
      .failed entered fails hmore ?_ (filled_annotate ..)⟩
    · rw [log_logged, hmore, List.append_assoc]
      rfl
    · rw [List.filter_append, hmarks]
      simp [hlast]
  | broken entered fails other =>
    obtain ⟨⟨more, hmore, hmarks⟩, -⟩ := entered.after_work hunmarked fails
    exact ⟨more, hmore, .broken entered fails other hmarks⟩
  | @provisioned _ w'' report entered done =>
    obtain ⟨⟨more, hmore, hmarks⟩, -⟩ := entered.after_work hunmarked done
    have hwrote : w''.log ++ [endOf image .shrink] = w.log ++ (more ++ [endOf image .shrink]) := by
      rw [hmore, List.append_assoc]
      rfl
    have hall : throughout image Stage.all =
        throughout image Stage.shrink.before ++ [startOf image .shrink, endOf image .shrink] :=
      throughout_append_singleton image Stage.shrink.before .shrink
    have hlast : (successRecord image report).marksStage image = false := rfl
    refine ⟨more ++ [endOf image .shrink] ++ [successRecord image report], ?_,
      .provisioned entered done hwrote ?_⟩
    · rw [log_logged, log_logged, hwrote, List.append_assoc]
    · rw [hall, List.filter_append, List.filter_append, hmarks]
      simp [hlast]

/-- A run of an image that was completed, after which its log goes on. -/
def provisionedBefore : Run Unit :=
  (provision workingRunner {} none false largeImage emptyArchive Population.temporaryDirectory
    { files := workingHost, runner := () }).2

/-- An unpacker that writes to the log and refuses, without a word on the stage. -/
def refusingUnpacker : Unpacker :=
  .steps (fun _ _ => throw (.ofStage .extraction "No archive." none [("stage", "")]))
    fun _ _ _ =>
      [{ operation := "extract", image := some "guest", stage := none, message := "Looking." }]

theorem provision_refusingUnpacker_chronicle :
    let ended := provision workingRunner {} (some refusingUnpacker) false largeImage emptyArchive
      Population.temporaryDirectory provisionedBefore
    (∃ more, ended.2.log = provisionedBefore.log ++ more ∧
        Chronicle workingRunner {} (some refusingUnpacker) false largeImage emptyArchive
          Population.temporaryDirectory provisionedBefore ended.1 more) ∧
      ended.1 = .error (.ofStage .extraction "No archive." none
        [("stage", "populate"), ("image", "guest")]) := by
  refine ⟨provision_chronicle _ _ _ _ _ _ _ _ ?_, by decide +kernel⟩
  intro source target fs r hr
  obtain rfl := List.mem_singleton.1 hr
  rfl

/-- The record of a failure tells the stages that the run completed if and only if no stage of the
image was completed in the log before: it tells those of every run of the image. -/
theorem provision_completed_iff (hunmarked : (unpacker.getD (.tar [])).Unmarked image)
    {f : StageFault} {causes : List Fault}
    (hfails : (provision runner settings unpacker preflight image source dir w).1 =
      .error ⟨.stage f, causes⟩) :
    (preflight = true ∧
        runner.ensureAvailable (toolsFor unpacker) w.runner = .error ⟨.stage f, causes⟩ ∧
        (provision runner settings unpacker preflight image source dir w).2.log = w.log) ∨
      ∃ s w' w'' e more completed,
        Enters runner settings (unpacker.getD (.tar [])) image source dir
          (checked unpacker preflight w) s w' ∧
        s.work runner settings (unpacker.getD (.tar [])) image source dir w' = (.error e, w'') ∧
        (provision runner settings unpacker preflight image source dir w).2.log =
          w.log ++ more ++ [failureRecord image s f completed] ∧
        completed = w.log.completedStages (some image.uid) ++
          s.before.map (fun s => some s.name) ∧
        (completed = s.before.map (fun s => some s.name) ↔
          w.log.completedStages (some image.uid) = []) := by
  have hends := provision_ends runner settings unpacker preflight image source dir w hunmarked
  generalize provision runner settings unpacker preflight image source dir w = x at hends hfails ⊢
  cases hends with
  | unready checks refused =>
    obtain rfl := Except.error.inj hfails
    exact .inl ⟨checks, refused, rfl⟩
  | @failed s w' w'' f' _ entered fails =>
    obtain ⟨⟨more, hmore, hmarks⟩, -⟩ := entered.after_work hunmarked fails
    have hmore : w''.log = w.log ++ more := hmore
    have hcompleted : w''.log.completedStages (some image.uid) =
        w.log.completedStages (some image.uid) ++ s.before.map fun s => some s.name := by
      rw [hmore, Log.completedStages_append, ← Log.completedStages_marks more, hmarks,
        Log.completedStages_append, completedStages_throughout]
      simp [Log.completedStages, startOf, stageRecord, stageStart, stageComplete]
    cases hfails
    refine .inr ⟨s, w', w'', _, more, _, entered, fails, ?_, hcompleted, ?_⟩
    · rw [log_logged, hmore]
      rfl
    · rw [hcompleted]
      simp
  | broken _ _ other =>
    obtain rfl := Except.error.inj hfails
    exact absurd rfl (other f)
  | provisioned => cases hfails

end Chronicle

/-- A runner whose calls succeed but for those that format. -/
def formattingFailsRunner : Runner Unit where
  run argv stdin s :=
    if argv.head? = some "mkfs.ext4" then (⟨.ok { argv, exitStatus := 1 }, none⟩, s)
    else workingRunner.run argv stdin s
  ensureAvailable _ _ := .ok ()

theorem provision_again_completed :
    ∃ s f more completed, (provision formattingFailsRunner {} none false largeImage emptyArchive
          Population.temporaryDirectory provisionedBefore).2.log =
        provisionedBefore.log ++ more ++ [failureRecord largeImage s f completed] ∧
      completed ≠ s.before.map fun s => some s.name := by
  have hbefore : provisionedBefore.log.completedStages (some largeImage.uid) ≠ [] := by
    decide +kernel
  have hfails : (provision formattingFailsRunner {} none false largeImage emptyArchive
      Population.temporaryDirectory provisionedBefore).1 =
      .error (.ofStage .format "Failed to format image guest."
        (some "Check mkfs.ext4 output and free space in the object directory.")
        [("image", "guest"), ("operation", "format"), ("path", "/images/guest/IMAGE_FS"),
          ("returncode", "1"), ("stderr", ""),
          ("command", "mkfs.ext4 -b 4096 -I 256 -F -E " ++ Allocation.extendedOptions ++
            " /images/guest/IMAGE_FS"),
          ("stage", "format")]) := by
    decide +kernel
  rcases provision_completed_iff formattingFailsRunner {} none false largeImage emptyArchive
      Population.temporaryDirectory provisionedBefore trivial hfails with
    ⟨hpreflight, -⟩ | ⟨s, _, _, e, more, completed, -, -, hlog, -, hiff⟩
  · cases hpreflight
  · exact ⟨s, _, more, completed, hlog, fun h => hbefore (hiff.1 h)⟩

end GuestImage.Provisioning
