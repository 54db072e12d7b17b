import GuestImage.Provisioning

/-!
# The records of a run

Steps only append to the log (`Writes`): for every step the kind of the records that it appends is
put together from that of its parts. Which records of a kind are appended goes over from one step
to the next as well (`Log.Gains`). Which stage an image is in, and which it has been through, the
log answers by the records that mark the start and the end of a stage (`LogRecord.marksStage`). No
stage writes such a record of its own, so that the answers do not change while a stage is at work.
-/

namespace GuestImage

variable {σ α β : Type}

/-- Whether a record marks the start or the end of a stage of an image. -/
def LogRecord.marksStage (image : Image) (r : LogRecord) : Bool :=
  (r.operation = stageStart || r.operation = stageComplete) && r.image = some image.uid

/-- Steps that only append to the log, and only records of a kind. -/
def Writes (P : LogRecord → Prop) (act : Procedure σ α) : Prop :=
  ∀ w, ∃ more, (act w).2.log = w.log ++ more ∧ ∀ r ∈ more, P r

section Writes

variable {P : LogRecord → Prop} {act : Procedure σ α}

theorem writes_of_log_eq (h : ∀ w, (act w).2.log = w.log) : Writes P act :=
  fun w => ⟨[], by rw [h w, List.append_nil], by simp⟩

theorem writes_ofExcept (outcome : Except Failure α) :
    Writes P (Action.ofExcept outcome : Procedure σ α) :=
  writes_of_log_eq fun _ => rfl

theorem writes_pure (a : α) : Writes P (pure a : Procedure σ α) :=
  writes_of_log_eq fun _ => rfl

theorem writes_throw (e : Failure) : Writes P (throw e : Procedure σ α) :=
  writes_of_log_eq fun _ => rfl

theorem writes_get : Writes P (get : Procedure σ (Run σ)) :=
  writes_of_log_eq fun _ => rfl

theorem writes_note (event : Event) : Writes P (Procedure.note event : Procedure σ Unit) :=
  writes_of_log_eq fun _ => rfl

theorem writes_onFiles (act : FileAction α) : Writes P (Procedure.onFiles act : Procedure σ α) :=
  writes_of_log_eq fun _ => rfl

theorem writes_call (runner : Runner σ) (argv : List String) (stdin : Option ByteStream) :
    Writes P (Procedure.call runner argv stdin) :=
  writes_of_log_eq fun _ => rfl

theorem writes_record {r : LogRecord} (h : P r) :
    Writes P (Procedure.record r : Procedure σ Unit) :=
  fun _ => ⟨[r], rfl, by simpa using h⟩

theorem Writes.bind {f : α → Procedure σ β} (h : Writes P act) (hf : ∀ a, Writes P (f a)) :
    Writes P (act >>= f) := by
  intro w
  obtain ⟨before, hbefore, hp⟩ := h w
  rw [Action.bind_apply]
  generalize act w = x at hbefore
  obtain ⟨_ | a, w'⟩ := x
  · exact ⟨before, hbefore, hp⟩
  · obtain ⟨after, hafter, hq⟩ := hf a w'
    have hbefore : w'.log = w.log ++ before := hbefore
    refine ⟨before ++ after, ?_, fun r hr => (List.mem_append.1 hr).elim (hp r) (hq r)⟩
    rw [hafter, hbefore, List.append_assoc]

theorem writes_record_bind {r : LogRecord} (hr : P r) (h : Writes P act) :
    Writes P (Procedure.record r >>= fun _ => act) :=
  (writes_record hr).bind fun _ => h

theorem Writes.attempt (h : Writes P act) : Writes P (Action.attempt act) := h

theorem Writes.mapFailure (h : Writes P act) (f : Failure → Failure) :
    Writes P (Action.mapFailure f act) := h

theorem settle_state {S : Type} (release : Action S Unit) (listen : Failure → Action S Unit)
    (body : Action S α) (s : S) :
    (settle release (some listen) body s).2 = (release (body s).2).2 ∨
      ∃ e, (settle release (some listen) body s).2 = (listen e (release (body s).2).2).2 := by
  unfold settle
  rcases body s with ⟨e | a, s₁⟩
  · rcases hr : release s₁ with ⟨r | _, s₂⟩
    · by_cases ordinary : r.isOrdinary = true
      · refine .inr ⟨r, ?_⟩
        rcases hl : listen r s₂ with ⟨_ | _, s₃⟩ <;> simp [hr, hl, ordinary]
      · exact .inl (by simp [hr, ordinary])
    · exact .inl (by simp [hr])
  · rcases hr : release s₁ with ⟨_ | _, s₂⟩ <;> exact .inl (by simp [hr])

/-- What a listener that logs comes to write: of an ordinary failure of the release where the body
failed before it. -/
def heard (say : Failure → LogRecord) : Except Failure α → Except Failure Unit → Log
  | .error _, .error r => if r.isOrdinary then [say r] else []
  | _, _ => []

theorem settle_log (release : Procedure σ Unit) (say : Failure → LogRecord)
    (body : Procedure σ α) (w : Run σ) :
    (settle release (some fun e => Procedure.record (say e)) body w).2.log =
      (release (body w).2).2.log ++ heard say (body w).1 (release (body w).2).1 := by
  unfold settle
  rcases body w with ⟨e | a, w₁⟩
  · rcases hr : release w₁ with ⟨r | _, w₂⟩
    · by_cases ordinary : r.isOrdinary = true <;> simp [hr, ordinary, heard]
    · simp [hr, heard]
  · rcases hr : release w₁ with ⟨_ | _, w₂⟩ <;> simp [hr, heard]

theorem writes_settle {release : Procedure σ Unit} {listen : Failure → Procedure σ Unit}
    (hrelease : Writes P release) (hlisten : ∀ e, Writes P (listen e)) (h : Writes P act)
    (w : Run σ) :
    ∃ more, (settle release (some listen) act w).2.log = w.log ++ more ∧ ∀ r ∈ more, P r := by
  obtain ⟨before, hbefore, hp⟩ := h w
  obtain ⟨after, hafter, hq⟩ := hrelease (act w).2
  have hlog : (release (act w).2).2.log = w.log ++ (before ++ after) := by
    rw [hafter, hbefore, List.append_assoc]
  have hheld : ∀ r ∈ before ++ after, P r := fun r hr => (List.mem_append.1 hr).elim (hp r) (hq r)
  rcases settle_state release listen act w with hstate | ⟨e, hstate⟩
  · exact ⟨_, hstate ▸ hlog, hheld⟩
  · obtain ⟨last, hlast, hlistened⟩ := hlisten e (release (act w).2).2
    refine ⟨before ++ after ++ last, ?_, fun r hr =>
      (List.mem_append.1 hr).elim (hheld r) (hlistened r)⟩
    rw [hstate, hlast, hlog, List.append_assoc w.log]

theorem Writes.releaseAfter {release : Procedure σ Unit} {listen : Failure → Procedure σ Unit}
    (hrelease : Writes P release) (hlisten : ∀ e, Writes P (listen e)) (h : Writes P act) :
    Writes P (releaseAfter release (some listen) act) :=
  writes_settle hrelease hlisten h

theorem writes_refusal (r : ToolResult) (failure : String → Failure) :
    Writes P (do throw (failure (← Action.ofExcept (decimal r.exitStatus))) : Procedure σ α) :=
  (writes_ofExcept _).bind fun _ => writes_throw _

end Writes

/-- A log has some records more, and those of a kind among them are the given ones. -/
def Log.Gains (kind : LogRecord → Bool) (said before after : Log) : Prop :=
  ∃ more, after = before ++ more ∧ more.filter kind = said

namespace Log.Gains

variable {kind : LogRecord → Bool} {said said' before mid after : Log}

theorem trans (h : Gains kind said before mid) (h' : Gains kind said' mid after) :
    Gains kind (said ++ said') before after := by
  obtain ⟨more, rfl, rfl⟩ := h
  obtain ⟨more', rfl, rfl⟩ := h'
  exact ⟨more ++ more', List.append_assoc .., List.filter_append ..⟩

theorem trans_nil (h : Gains kind said before mid) (h' : Gains kind [] mid after) :
    Gains kind said before after := by
  simpa using h.trans h'

theorem of_writes {act : Procedure σ α} (h : Writes (fun r => kind r = false) act) (w : Run σ) :
    Gains kind [] w.log (act w).2.log := by
  obtain ⟨more, hmore, hnone⟩ := h w
  exact ⟨more, hmore, List.filter_eq_nil_iff.2 fun r hr => by simp [hnone r hr]⟩

theorem bind_writes {act : Procedure σ α} {f : α → Procedure σ β} {w : Run σ}
    (h : Gains kind said w.log (act w).2.log)
    (hf : ∀ a, Writes (fun r => kind r = false) (f a)) :
    Gains kind said w.log ((act >>= f) w).2.log := by
  rw [Action.bind_apply]
  generalize act w = x at h
  obtain ⟨_ | a, w'⟩ := x
  · exact h
  · exact h.trans_nil (of_writes (hf a) w')

end Log.Gains

variable (image : Image) (runner : Runner σ)

/-- Steps that append no record that marks a stage of an image. -/
abbrev MarksNothing (act : Procedure σ α) : Prop :=
  Writes (fun r => r.marksStage image = false) act

theorem planSize_marksNothing (policy : SizePolicy) (nominal : Int) (uid : Option String) :
    MarksNothing image (planSize (σ := σ) policy nominal uid) :=
  (writes_ofExcept _).bind fun _ => writes_record_bind rfl (writes_pure _)

namespace Allocation

theorem allocate_marksNothing (size : Int) :
    MarksNothing image (allocate (σ := σ) image size) := by
  refine (writes_onFiles (allocateFile image size)).attempt.bind fun o => ?_
  rcases o with ⟨fault, causes⟩ | _
  · cases fault with
    | refusal r =>
      exact writes_record_bind rfl ((writes_ofExcept _).bind fun _ => writes_throw _)
    | _ => exact writes_throw _
  · exact writes_pure _

theorem build_marksNothing (size : Int) : MarksNothing image (build runner image size) := by
  refine writes_record_bind rfl ((allocate_marksNothing image size).bind fun _ => ?_)
  refine (writes_call runner _ none).bind fun r => ?_
  dsimp only
  split
  · exact writes_pure _
  · exact writes_record_bind rfl (writes_refusal r _)

end Allocation

namespace Unpacker

/-- Nothing that an unpacker writes to the log marks a stage of an image. -/
def Unmarked : Unpacker → Prop
  | .tar _ => True
  | .steps _ records => ∀ source target fs, ∀ r ∈ records source target fs,
      r.marksStage image = false

/-- What the records of unpacking with the tool are of. -/
def operations : List String := ["extract", "source_cleanup"]

variable {P : LogRecord → Prop}

theorem runTar_writes (hrecord : ∀ message tool, P (recordOf "extract" "error" message tool))
    (arguments : List String) (source : Source) (target : Path) :
    Writes P (runTar runner arguments source target) := by
  refine Writes.bind ?_ fun r => ?_
  · refine (writes_onFiles _).bind fun stream => (writes_note _).bind fun _ => ?_
    exact (writes_call runner _ _).attempt.bind fun o => (writes_note _).bind fun _ =>
      (writes_onFiles _).bind fun _ => writes_ofExcept o
  · split
    · exact writes_pure _
    · split
      · exact writes_record_bind (hrecord ..) (writes_refusal r _)
      · exact writes_refusal r _

theorem release_writes
    (hrecord : ∀ message tool, P (recordOf "source_cleanup" "debug" message tool))
    (source : Source) : Writes P (release (σ := σ) source) := by
  refine Writes.bind (Writes.attempt ((writes_note _).bind fun _ => writes_onFiles _)) fun o => ?_
  rcases o with e | _
  · dsimp only
    split
    · exact writes_throw _
    · split
      · exact writes_throw _
      · exact writes_record (hrecord ..)
  · exact writes_pure _

theorem unpackTar_writes
    (hrecord : ∀ operation ∈ operations, ∀ level message tool,
      P (recordOf operation level message tool))
    (arguments : List String) (source : Source) (target : Path) :
    Writes P (unpack runner (.tar arguments) source target) :=
  (release_writes (hrecord "source_cleanup" (by simp [operations]) "debug") source).releaseAfter
    (fun _ => writes_record (hrecord "source_cleanup" (by simp [operations]) ..))
    (runTar_writes runner (hrecord "extract" (by simp [operations]) "error") arguments source
      target)

theorem unpack_marksNothing (source : Source) (target : Path) {unpacker : Unpacker}
    (h : unpacker.Unmarked image) :
    MarksNothing image (unpack runner unpacker source target) := by
  cases unpacker with
  | tar arguments =>
    have hrecord : ∀ operation ∈ operations, ∀ level message tool,
        (recordOf operation level message tool).marksStage image = false := by
      simp [LogRecord.marksStage, recordOf]
    exact unpackTar_writes runner hrecord arguments source target
  | steps act records =>
    have hrecords : MarksNothing image
        (modify fun w => { w with log := w.log ++ records source target w.files } :
          Procedure σ PUnit) :=
      fun w => ⟨_, rfl, h source target w.files⟩
    exact hrecords.bind fun _ => writes_onFiles _

end Unpacker

namespace Population

theorem makeFreshDirectory_writes {P : LogRecord → Prop} (dir : Path) (tries : Nat) :
    Writes P (makeFreshDirectory (σ := σ) dir tries) := by
  induction tries with
  | zero => exact writes_throw _
  | succ tries ih =>
    refine writes_get.bind fun w => Writes.bind (writes_of_log_eq fun _ => rfl) fun _ => ?_
    refine (writes_onFiles _).attempt.bind fun o => ?_
    rcases o with e | _
    · dsimp only
      split
      · exact ih
      · exact writes_throw _
    · exact writes_pure _

theorem makeMountpoint_writes {P : LogRecord → Prop} (dir : Path) :
    Writes P (makeMountpoint (σ := σ) image dir) := by
  refine (makeFreshDirectory_writes dir maxTries).attempt.bind fun o => ?_
  rcases o with ⟨fault, causes⟩ | mountpoint
  · cases fault with
    | _ => exact writes_throw _
  · exact (writes_note _).bind fun _ => writes_pure _

theorem mount_writes {P : LogRecord → Prop} (mountpoint : Path)
    (hrecord :
      P { recordOf image "mount" "error" (mountMessage image) with tool := some "mount" }) :
    Writes P (mount runner image mountpoint) := by
  refine (writes_call runner _ none).bind fun r => ?_
  split
  · exact writes_pure _
  · exact writes_record_bind hrecord (writes_refusal r _)

theorem mount_marksNothing (mountpoint : Path) :
    MarksNothing image (mount runner image mountpoint) :=
  mount_writes image runner mountpoint rfl

theorem unmount_writes {P : LogRecord → Prop} (mountpoint : Path) :
    Writes P (unmount runner image mountpoint) := by
  refine (writes_call runner _ none).bind fun r => ?_
  split
  · exact writes_pure _
  · exact writes_refusal r _

theorem whileMounted_marksNothing (mountpoint : Path) {body : Procedure σ α}
    (h : MarksNothing image body) :
    MarksNothing image (whileMounted runner image mountpoint body) := by
  refine (mount_marksNothing image runner mountpoint).attempt.bind fun o => ?_
  rcases o with e | _
  · exact writes_pure _
  · refine Writes.bind ?_ fun _ => writes_pure _
    exact writes_settle (P := fun r => r.marksStage image = false)
      (unmount_writes image runner mountpoint) (fun _ => writes_record rfl) h

theorem unpackInto_marksNothing (source : Source) (mountpoint : Path) {unpacker : Unpacker}
    (h : unpacker.Unmarked image) :
    MarksNothing image (unpackInto runner unpacker image source mountpoint) := by
  refine (Unpacker.unpack_marksNothing image runner source mountpoint h).attempt.bind fun o => ?_
  rcases o with ⟨fault, causes⟩ | _
  · cases fault with
    | stage f => exact writes_record_bind rfl (writes_throw _)
    | _ => exact writes_throw _
  · exact writes_pure _

theorem setUpNameServers_writes {P : LogRecord → Prop} (mountpoint : Path)
    (hrecord : ∀ level message, P (recordOf image "resolv_conf" level message)) :
    Writes P (setUpNameServers (σ := σ) image mountpoint) := by
  refine (writes_onFiles (NameResolution.ensure mountpoint)).attempt.bind fun o => ?_
  rcases o with ⟨fault, causes⟩ | linked
  · cases fault with
    | stage f => exact writes_record_bind (hrecord ..) (writes_throw _)
    | refusal r => exact writes_record_bind (hrecord ..) (writes_throw _)
    | _ => exact writes_throw _
  · cases linked with
    | true => exact writes_record_bind (hrecord ..) (writes_pure _)
    | false => exact writes_pure _

theorem setUpNameServers_marksNothing (mountpoint : Path) :
    MarksNothing image (setUpNameServers (σ := σ) image mountpoint) :=
  setUpNameServers_writes image mountpoint fun _ _ => rfl

theorem leaveMountpoint_writes {P : LogRecord → Prop} (mountpoint : Path) (mounted : Bool)
    (hrecord : ∀ message, P (recordOf image "populate_cleanup" "warning" message)) :
    Writes P (leaveMountpoint runner image mountpoint mounted) := by
  cases mounted with
  | true => exact writes_record (hrecord _)
  | false => exact (writes_note _).bind fun _ => writes_of_log_eq fun _ => rfl

theorem leaveMountpoint_marksNothing (mountpoint : Path) (mounted : Bool) :
    MarksNothing image (leaveMountpoint runner image mountpoint mounted) :=
  leaveMountpoint_writes image runner mountpoint mounted fun _ => rfl

theorem populate_marksNothing (dir : Path) (source : Source) {unpacker : Unpacker}
    (h : unpacker.Unmarked image) :
    MarksNothing image (populate runner unpacker dir image source) := by
  refine writes_record_bind rfl ((makeMountpoint_writes image dir).bind fun mountpoint => ?_)
  refine Writes.bind (whileMounted_marksNothing image runner mountpoint ?_) fun o => ?_
  · exact (unpackInto_marksNothing image runner source mountpoint h).bind fun _ =>
      setUpNameServers_marksNothing image mountpoint
  · exact (leaveMountpoint_marksNothing image runner mountpoint o.2).bind fun _ =>
      writes_ofExcept o.1

end Population

namespace LoopDevice

theorem attach_writes {P : LogRecord → Prop} {uid : Option String}
    (hrecord : ∀ level message, P (recordOf uid "loop_attach" level message))
    (path : String) (readOnly : Bool) : Writes P (attach runner path readOnly uid) := by
  refine (writes_call runner _ none).bind fun r => ?_
  by_cases hok : r.ok = true
  · simp only [hok, Bool.not_true, Bool.false_eq_true, if_false]
    split
    · exact writes_throw _
    · exact (writes_note _).bind fun _ => writes_record_bind (hrecord ..) (writes_pure _)
  · simp only [hok, Bool.not_false, if_true]
    exact writes_refusal r _

theorem detach_writes {P : LogRecord → Prop} {uid : Option String}
    (hrecord : ∀ level message, P (recordOf uid "loop_detach" level message))
    (device : LoopDevice) : Writes P (detach runner device uid) := by
  refine (writes_call runner _ none).bind fun r => ?_
  split
  · exact writes_record (hrecord ..)
  · split
    · exact writes_record (hrecord ..)
    · exact writes_refusal r _

theorem withDevice_marksNothing (path : String) (readOnly : Bool) (uid : Option String)
    {body : LoopDevice → Procedure σ α} (h : ∀ device, MarksNothing image (body device)) :
    MarksNothing image (withDevice runner path readOnly uid body) :=
  ((attach_writes runner (fun _ _ => rfl) path readOnly).mapFailure _).bind fun device =>
    (detach_writes runner (fun _ _ => rfl) device).releaseAfter (fun _ => writes_record rfl)
      (h device)

end LoopDevice

namespace Shrinking

theorem check_marksNothing (device : LoopDevice) :
    MarksNothing image (check runner image device) := by
  refine (writes_call runner _ none).bind fun r => ?_
  split
  · exact writes_pure _
  · split
    · exact writes_record rfl
    · exact (writes_ofExcept _).bind fun _ => writes_record rfl

theorem estimate_marksNothing (device : LoopDevice) :
    MarksNothing image (estimate runner image device) := by
  refine writes_record_bind rfl ((writes_call runner _ none).bind fun r => ?_)
  by_cases hok : r.ok = true
  · simp only [hok, Bool.not_true, Bool.false_eq_true, if_false]
    split
    · split
      · exact writes_record_bind rfl (writes_throw _)
      · exact writes_throw _
    · exact (writes_ofExcept _).bind fun _ => writes_record_bind rfl (writes_pure _)
  · simp only [hok, Bool.not_false, if_true]
    exact writes_record_bind rfl (writes_refusal r _)

theorem resize_marksNothing (device : LoopDevice) (blocks : Nat) :
    MarksNothing image (resize runner image device blocks) := by
  refine (writes_ofExcept _).bind fun text => (writes_call runner _ none).bind fun r => ?_
  split
  · exact writes_pure _
  · exact writes_record_bind rfl (writes_refusal r _)

theorem truncate_marksNothing (minimum : MinimumSize) :
    MarksNothing image (truncate (σ := σ) image minimum) := by
  refine (writes_ofExcept _).bind fun text => writes_record_bind rfl ?_
  refine (writes_onFiles _).attempt.bind fun o => ?_
  rcases o with ⟨fault, causes⟩ | _
  · cases fault with
    | refusal r => exact writes_record_bind rfl (writes_throw _)
    | _ => exact writes_throw _
  · exact writes_pure _

theorem shrink_marksNothing : MarksNothing image (shrink runner image) := by
  refine Writes.bind (LoopDevice.withDevice_marksNothing image runner _ false _ fun device => ?_)
    fun blocks => (truncate_marksNothing image _).bind fun _ => writes_pure _
  exact (check_marksNothing image runner device).bind fun _ =>
    (estimate_marksNothing image runner device).bind fun blocks =>
      (resize_marksNothing image runner device blocks).bind fun _ => writes_pure _

end Shrinking

namespace Log

variable {image}

/-- The stage an image is in is read off the records that mark one. -/
theorem currentStage_append_of_unmarked {log more : Log}
    (h : ∀ r ∈ more, r.marksStage image = false) :
    currentStage (log ++ more) (some image.uid) = currentStage log (some image.uid) := by
  have hnone : more.reverse.find? (fun r => r.image = some image.uid && r.operation = stageStart) =
      none := by
    rw [List.find?_eq_none]
    intro r hr hstart
    have := h r (List.mem_reverse.1 hr)
    simp only [Bool.and_eq_true, decide_eq_true_eq] at hstart
    simp [LogRecord.marksStage, hstart] at this
  simp only [currentStage, List.reverse_append, List.find?_append, hnone, Option.none_or]

/-- And so are the stages that it has been through. -/
theorem completedStages_marks (log : Log) :
    completedStages (log.filter (·.marksStage image)) (some image.uid) =
      completedStages log (some image.uid) := by
  unfold completedStages
  rw [List.filter_filter]
  congr 1
  refine List.filter_congr fun r _ => ?_
  by_cases himage : r.image = some image.uid <;> simp +contextual [LogRecord.marksStage, himage]

end Log

end GuestImage
