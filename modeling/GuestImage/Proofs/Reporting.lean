import GuestImage.Proofs.Announcing
import GuestImage.Proofs.Mounting

/-!
# Failures and the records of them

A stage writes a record of its failure to the log before it fails: allocating and formatting always
do (`build_announces`), and so do most steps of the other stages. Which failures to populate and to
shrink an image no record reports is said by `Population.Unreported` and `Shrinking.Unreported`,
and these are all (`failures_reported_iff`).
-/

namespace GuestImage

variable {σ α : Type}

namespace Unpacker

/-- The unpacker itself writes a record that reports the failure of populating an image. -/
def Reports (unpacker : Unpacker) (image : Image) (source : Source) (target : Path)
    (fs : FileSystem) : Prop :=
  match unpacker with
  | .tar _ => False
  | .steps _ records => ∃ r ∈ records source target fs, r.Reports image "populate"

variable {runner : Runner σ} {unpacker : Unpacker} {image : Image} {source : Source}
  {target : Path} {w : Run σ}

theorem unpack_untold (h : ¬unpacker.Reports image source target w.files) :
    Untold (LogRecord.Reports image "populate") w.log
      (unpack runner unpacker source target w).2.log := by
  cases unpacker with
  | tar arguments =>
    exact unpackTar_writes runner (fun _ _ _ _ _ hr => nomatch hr.2.1) arguments source target w
  | steps act records => exact ⟨_, rfl, fun r hr hreports => h ⟨r, hr, hreports⟩⟩

theorem unpack_told (h : unpacker.Reports image source target w.files) :
    Told (LogRecord.Reports image "populate") w.log
      (unpack runner unpacker source target w).2.log := by
  cases unpacker with
  | tar arguments => exact h.elim
  | steps act records => exact ⟨_, rfl, h⟩

theorem unpack_grows (image : Image) (runner : Runner σ) (unpacker : Unpacker) (source : Source)
    (target : Path) (w : Run σ) : w.log <+: (unpack runner unpacker source target w).2.log := by
  by_cases h : unpacker.Reports image source target w.files
  · exact (unpack_told h).isPrefix
  · exact (unpack_untold h).isPrefix

end Unpacker

variable (image : Image) {runner : Runner σ}

namespace Allocation

theorem plain_allocateFile (size : Int) : Plain (allocateFile image size) :=
  plain_of_failsWith (failsWith_allocateFile (covers_outOfStage _) fun _ _ h => nomatch h)

theorem build_announces (answers : runner.Answers) (size : Int) :
    Announces (LogRecord.Reports image "format") (build runner image size) := by
  refine (announces_record (not_reports rfl)).bind fun _ =>
    Announces.bind ?_ fun _ => ?_
  · refine announces_onFiles_bind fun fs => ?_
    have hplain := plain_allocateFile image size fs
    generalize (allocateFile image size fs).1 = x at hplain
    rcases x with ⟨fault, causes⟩ | _
    · cases fault with
      | stage f => exact absurd ⟨f, causes, rfl⟩ hplain
      | refusal r =>
        exact announces_refusal ⟨rfl, rfl, rfl⟩ size fun text => allocationFailure image text _
      | _ => exact announces_throw fun _ h => nomatch h
    · exact announces_pure _
  · refine (announces_call answers _ none).bind fun r => ?_
    dsimp only
    split
    · exact announces_pure _
    · exact announces_refusal ⟨rfl, rfl, rfl⟩ r.exitStatus _

end Allocation

namespace Population

theorem mount_announces (answers : runner.Answers) (mountpoint : Path) :
    Announces (LogRecord.Reports image "populate") (mount runner image mountpoint) := by
  refine (announces_call answers _ none).bind fun r => ?_
  split
  · exact announces_pure _
  · exact announces_refusal ⟨rfl, rfl, rfl⟩ r.exitStatus _

theorem setUpNameServers_announces (mountpoint : Path) :
    Announces (LogRecord.Reports image "populate")
      (setUpNameServers (σ := σ) image mountpoint) := by
  refine announces_onFiles_bind fun fs => ?_
  rcases (NameResolution.ensure mountpoint fs).1 with ⟨fault, causes⟩ | linked
  · cases fault with
    | stage f =>
      exact announces_record_throw ⟨rfl, rfl, rfl⟩ _
    | refusal r =>
      exact announces_record_throw ⟨rfl, rfl, rfl⟩ _
    | _ => exact announces_throw fun _ h => nomatch h
  · cases linked with
    | true => exact (announces_record (not_reports rfl)).bind fun _ => announces_pure _
    | false => exact announces_pure _

/-- What comes after a record goes on from the run with it. -/
theorem record_bind_apply (r : LogRecord) (f : Unit → Procedure σ α) (w : Run σ) :
    (Procedure.record r >>= f) w = f () { w with log := w.log ++ [r] } := rfl

theorem lift_apply (act : StateM (Run σ) α) (w : Run σ) :
    (liftM act : Procedure σ α) w = (.ok (act w).1, (act w).2) := rfl

/-- The run once it is recorded that an image is populated. -/
def started (image : Image) (w : Run σ) : Run σ :=
  { w with
    log := w.log ++
      [recordOf image "populate" "info" "Copying in files to the image file from a source."] }

/-- What is done while an image is mounted. -/
def fill (runner : Runner σ) (unpacker : Unpacker) (image : Image) (source : Source)
    (mountpoint : Path) : Procedure σ Bool := do
  unpackInto runner unpacker image source mountpoint
  setUpNameServers image mountpoint

/-- The failures to populate an image that no record reports. -/
inductive Unreported (runner : Runner σ) (unpacker : Unpacker) (dir : Path) (image : Image)
    (source : Source) (w : Run σ) : Prop
  /-- There is no directory to mount the image on. -/
  | making {e : Failure} (fails : (makeMountpoint image dir (started image w)).1 = .error e)
  /-- The operating system refuses the unpacker something. -/
  | unpacking {mountpoint : Path} {w₁ w₂ : Run σ} {r : Refusal} {causes : List Fault}
      (made : makeMountpoint image dir (started image w) = (.ok mountpoint, w₁))
      (mounted : mount runner image mountpoint w₁ = (.ok (), w₂))
      (refused : (Unpacker.unpack runner unpacker source mountpoint w₂).1 =
        .error ⟨.refusal r, causes⟩)
      (untold : ¬unpacker.Reports image source mountpoint w₂.files)
  /-- The image was filled and cannot be unmounted. -/
  | unmounting {mountpoint : Path} {w₁ w₂ w₃ : Run σ} {linked : Bool} {e : Failure}
      (made : makeMountpoint image dir (started image w) = (.ok mountpoint, w₁))
      (mounted : mount runner image mountpoint w₁ = (.ok (), w₂))
      (filled : fill runner unpacker image source mountpoint w₂ = (.ok linked, w₃))
      (fails : (unmount runner image mountpoint w₃).1 = .error e)
      (untold : ¬unpacker.Reports image source mountpoint w₂.files)

section Fill

variable (runner) (unpacker : Unpacker) (source : Source) (mountpoint : Path) (w : Run σ)

/-- The record of a failure to unpack is written only for the failure of a stage. -/
theorem unpackInto_cases :
    (InStage (Unpacker.unpack runner unpacker source mountpoint w).1 ∧
        Told (LogRecord.Reports image "populate")
          (Unpacker.unpack runner unpacker source mountpoint w).2.log
          (unpackInto runner unpacker image source mountpoint w).2.log) ∨
      ¬InStage (Unpacker.unpack runner unpacker source mountpoint w).1 ∧
        (unpackInto runner unpacker image source mountpoint w).2.log =
          (Unpacker.unpack runner unpacker source mountpoint w).2.log := by
  unfold unpackInto
  rw [Action.bind_apply, Action.attempt_apply]
  generalize Unpacker.unpack runner unpacker source mountpoint w = x
  obtain ⟨⟨fault, causes⟩ | _, w'⟩ := x
  · cases fault with
    | stage f =>
      exact .inl ⟨⟨f, causes, rfl⟩, [_], rfl, _, List.mem_singleton_self _, rfl, rfl, rfl⟩
    | _ => exact .inr ⟨not_inStage_error (fun _ h => nomatch h), rfl⟩
  · exact .inr ⟨not_inStage_ok (), rfl⟩

theorem unpackInto_error_cases
    (h : InStage (unpackInto runner unpacker image source mountpoint w).1) :
    InStage (Unpacker.unpack runner unpacker source mountpoint w).1 ∨
      ∃ r causes, (Unpacker.unpack runner unpacker source mountpoint w).1 =
        .error ⟨.refusal r, causes⟩ := by
  rw [(unpackInto_eq runner unpacker image source mountpoint w).1] at h
  generalize (Unpacker.unpack runner unpacker source mountpoint w).1 = o at h
  rcases o with ⟨fault, causes⟩ | _
  · cases fault with
    | stage f => exact .inl ⟨f, causes, rfl⟩
    | refusal r => exact .inr ⟨r, causes, rfl⟩
    | _ => exact absurd h (not_inStage_error fun _ h => nomatch h)
  · exact absurd h (not_inStage_ok ())

theorem unpackInto_told
    (h : InStage (Unpacker.unpack runner unpacker source mountpoint w).1) :
    Told (LogRecord.Reports image "populate") w.log
      (unpackInto runner unpacker image source mountpoint w).2.log := by
  rcases unpackInto_cases image runner unpacker source mountpoint w with ⟨-, htold⟩ | ⟨hnot, -⟩
  · exact told_of_isPrefix (Unpacker.unpack_grows image runner unpacker source mountpoint w) htold
  · exact absurd h hnot

theorem unpack_isPrefix_unpackInto :
    (Unpacker.unpack runner unpacker source mountpoint w).2.log <+:
      (unpackInto runner unpacker image source mountpoint w).2.log := by
  rcases unpackInto_cases image runner unpacker source mountpoint w with ⟨-, htold⟩ | ⟨-, hlog⟩
  · exact htold.isPrefix
  · exact hlog ▸ List.prefix_refl _

theorem unpackInto_isPrefix_fill :
    (unpackInto runner unpacker image source mountpoint w).2.log <+:
      (fill runner unpacker image source mountpoint w).2.log := by
  unfold fill
  rw [Action.bind_apply]
  rcases unpackInto runner unpacker image source mountpoint w with ⟨_ | _, w'⟩
  · exact List.prefix_refl _
  · exact (setUpNameServers_announces image mountpoint).grows w'

theorem fill_told_of_reports (h : unpacker.Reports image source mountpoint w.files) :
    Told (LogRecord.Reports image "populate") w.log
      (fill runner unpacker image source mountpoint w).2.log :=
  (Unpacker.unpack_told h).trans_isPrefix
    ((unpack_isPrefix_unpackInto image runner unpacker source mountpoint w).trans
      (unpackInto_isPrefix_fill image runner unpacker source mountpoint w))

theorem unpackInto_untold (untold : ¬unpacker.Reports image source mountpoint w.files)
    (h : ¬InStage (Unpacker.unpack runner unpacker source mountpoint w).1) :
    Untold (LogRecord.Reports image "populate") w.log
      (unpackInto runner unpacker image source mountpoint w).2.log := by
  rcases unpackInto_cases image runner unpacker source mountpoint w with ⟨hstage, -⟩ | ⟨-, hlog⟩
  · exact absurd hstage h
  · exact hlog ▸ Unpacker.unpack_untold untold

theorem fill_untold_of_refused {r : Refusal} {causes : List Fault}
    (refused : (Unpacker.unpack runner unpacker source mountpoint w).1 =
      .error ⟨.refusal r, causes⟩)
    (untold : ¬unpacker.Reports image source mountpoint w.files) :
    Untold (LogRecord.Reports image "populate") w.log
      (fill runner unpacker image source mountpoint w).2.log := by
  have hinto := (unpackInto_eq runner unpacker image source mountpoint w).1
  have huntold := unpackInto_untold image runner unpacker source mountpoint w untold
    (refused ▸ not_inStage_error fun _ h => nomatch h)
  rw [refused] at hinto
  unfold fill
  rw [Action.bind_apply]
  generalize unpackInto runner unpacker image source mountpoint w = x at hinto huntold
  obtain ⟨o, w'⟩ := x
  obtain rfl : o = .error _ := hinto
  exact huntold

theorem fill_untold_of_ok {linked : Bool}
    (filled : (fill runner unpacker image source mountpoint w).1 = .ok linked)
    (untold : ¬unpacker.Reports image source mountpoint w.files) :
    Untold (LogRecord.Reports image "populate") w.log
      (fill runner unpacker image source mountpoint w).2.log := by
  have hinto := (unpackInto_eq runner unpacker image source mountpoint w).1
  have huntold := unpackInto_untold image runner unpacker source mountpoint w untold
  unfold fill at filled ⊢
  rw [Action.bind_apply] at filled ⊢
  generalize Unpacker.unpack runner unpacker source mountpoint w = y at hinto huntold
  generalize unpackInto runner unpacker image source mountpoint w = x at hinto huntold filled
  obtain ⟨e | _, w'⟩ := x
  · exact nomatch filled
  · obtain ⟨_ | _, w''⟩ := y
    · exact nomatch hinto
    · exact (huntold (not_inStage_ok ())).trans
        ((setUpNameServers_announces image mountpoint).untold w' linked filled)

theorem fill_told (h : InStage (fill runner unpacker image source mountpoint w).1) :
    Told (LogRecord.Reports image "populate") w.log
        (fill runner unpacker image source mountpoint w).2.log ∨
      ∃ r causes, (Unpacker.unpack runner unpacker source mountpoint w).1 =
        .error ⟨.refusal r, causes⟩ := by
  have hgrows := (Unpacker.unpack_grows image runner unpacker source mountpoint w).trans
    (unpack_isPrefix_unpackInto image runner unpacker source mountpoint w)
  have hcases := unpackInto_error_cases image runner unpacker source mountpoint w
  have htold := unpackInto_told image runner unpacker source mountpoint w
  unfold fill at h ⊢
  rw [Action.bind_apply] at h ⊢
  generalize unpackInto runner unpacker image source mountpoint w = x at h hgrows hcases htold
  obtain ⟨e | _, w'⟩ := x
  · rcases hcases (inStage_error_iff.1 h) with hstage | hrefused
    · exact .inl (htold hstage)
    · exact .inr hrefused
  · exact .inl (told_of_isPrefix hgrows ((setUpNameServers_announces image mountpoint).told w' h))

end Fill

section Populate

variable {unpacker : Unpacker} {dir mountpoint : Path} {source : Source} {w w₁ w₂ : Run σ}
  {e : Failure}

theorem populate_of_unmade (h : makeMountpoint image dir (started image w) = (.error e, w₁)) :
    populate runner unpacker dir image source w = (.error e, w₁) := by
  unfold populate
  rw [record_bind_apply, Action.bind_apply, ← started, h]

theorem unpackInto_bind_eq_fill :
    (unpackInto runner unpacker image source mountpoint >>= fun _ =>
      setUpNameServers image mountpoint) = fill runner unpacker image source mountpoint := rfl

theorem leaveMountpoint_apply (runner : Runner σ) (mountpoint : Path) (mounted : Bool)
    (w : Run σ) :
    ∃ w', leaveMountpoint runner image mountpoint mounted w = (.ok (), w') ∧
      Untold (LogRecord.Reports image "populate") w.log w'.log := by
  cases mounted with
  | true => exact ⟨_, rfl, untold_singleton (not_reports rfl) w.log⟩
  | false => exact ⟨_, rfl, untold_refl w.log⟩

theorem populate_of_unmounted (unpacker : Unpacker) (source : Source)
    (made : makeMountpoint image dir (started image w) = (.ok mountpoint, w₁))
    (h : mount runner image mountpoint w₁ = (.error e, w₂)) :
    ∃ w', populate runner unpacker dir image source w = (.error e, w') ∧
      Untold (LogRecord.Reports image "populate") w₂.log w'.log := by
  obtain ⟨w', hleave, huntold⟩ := leaveMountpoint_apply image runner mountpoint false w₂
  refine ⟨w', ?_, huntold⟩
  unfold populate whileMounted
  rw [record_bind_apply, Action.bind_apply, ← started, made]
  simp only [Action.bind_apply, Action.attempt_apply, h, Action.pure_apply, hleave,
    Action.ofExcept_apply]

theorem populate_of_mounted (unpacker : Unpacker) (source : Source)
    (made : makeMountpoint image dir (started image w) = (.ok mountpoint, w₁))
    (h : mount runner image mountpoint w₁ = (.ok (), w₂)) :
    (populate runner unpacker dir image source w).1 =
        firstError (fill runner unpacker image source mountpoint w₂).1
          (unmount runner image mountpoint
            (fill runner unpacker image source mountpoint w₂).2).1 ∧
      Untold (LogRecord.Reports image "populate")
        (fill runner unpacker image source mountpoint w₂).2.log
        (populate runner unpacker dir image source w).2.log := by
  have hlisten : ∀ e, Writes (fun r => ¬r.Reports image "populate")
      (recordSuppressed (σ := σ) image e) := fun e => writes_record (not_reports rfl)
  have hsettled := (settle_eq (unmount runner image mountpoint) (recordSuppressed image)
    (fun _ => logs_record _) (fill runner unpacker image source mountpoint) w₂).1
  have huntold := settle_untold (unmount_writes image runner mountpoint) hlisten
    (fill runner unpacker image source mountpoint) w₂
  unfold populate whileMounted
  rw [record_bind_apply, Action.bind_apply, ← started, made]
  simp only [Action.bind_apply, Action.attempt_apply, h, lift_apply, Action.pure_apply,
    unpackInto_bind_eq_fill]
  generalize settle (unmount runner image mountpoint) (some (recordSuppressed image))
    (fill runner unpacker image source mountpoint) w₂ = settled at hsettled huntold ⊢
  obtain ⟨w', hleave, hleft⟩ := leaveMountpoint_apply image runner mountpoint
    (!settled.1.released) settled.2
  simp only [hleave, Action.ofExcept_apply]
  exact ⟨congrArg Settled.outcome hsettled, huntold.trans hleft⟩

theorem started_untold (w : Run σ) :
    Untold (LogRecord.Reports image "populate") w.log (started image w).log :=
  untold_singleton (not_reports rfl) w.log

theorem made_untold (made : makeMountpoint image dir (started image w) = (.ok mountpoint, w₁)) :
    Untold (LogRecord.Reports image "populate") w.log w₁.log := by
  have hmade : Untold (LogRecord.Reports image "populate") (started image w).log
    (makeMountpoint image dir (started image w)).2.log := makeMountpoint_writes image dir _
  rw [made] at hmade
  exact (started_untold image w).trans hmade

theorem mounted_untold (answers : runner.Answers)
    (made : makeMountpoint image dir (started image w) = (.ok mountpoint, w₁))
    (mounted : mount runner image mountpoint w₁ = (.ok (), w₂)) :
    Untold (LogRecord.Reports image "populate") w.log w₂.log := by
  have hmounted :=
    (mount_announces image answers mountpoint).untold w₁ () (congrArg Prod.fst mounted)
  rw [mounted] at hmounted
  exact (made_untold image made).trans hmounted

theorem populate_untold (answers : runner.Answers)
    (h : Unreported runner unpacker dir image source w) :
    Untold (LogRecord.Reports image "populate") w.log
      (populate runner unpacker dir image source w).2.log := by
  cases h with
  | making fails =>
    rcases hmade : makeMountpoint image dir (started image w) with ⟨e | mountpoint, w₁⟩
    · have huntold : Untold (LogRecord.Reports image "populate") (started image w).log
        (makeMountpoint image dir (started image w)).2.log := makeMountpoint_writes image dir _
      rw [hmade] at huntold
      rw [populate_of_unmade image hmade]
      exact (started_untold image w).trans huntold
    · rw [hmade] at fails
      exact nomatch fails
  | unpacking made mounted refused untold =>
    exact ((mounted_untold image answers made mounted).trans
      (fill_untold_of_refused image runner _ _ _ _ refused untold)).trans
        (populate_of_mounted image _ _ made mounted).2
  | unmounting made mounted filled fails untold =>
    exact ((mounted_untold image answers made mounted).trans
      (fill_untold_of_ok image runner _ _ _ _ (congrArg Prod.fst filled) untold)).trans
        (populate_of_mounted image _ _ made mounted).2

theorem populate_told_or_unreported (answers : runner.Answers)
    (h : InStage (populate runner unpacker dir image source w).1) :
    Told (LogRecord.Reports image "populate") w.log
        (populate runner unpacker dir image source w).2.log ∨
      Unreported runner unpacker dir image source w := by
  rcases hmade : makeMountpoint image dir (started image w) with ⟨e | mountpoint, w₁⟩
  · exact .inr (.making (congrArg Prod.fst hmade))
  have hmadeLog := (made_untold image hmade).isPrefix
  rcases hmount : mount runner image mountpoint w₁ with ⟨e | _, w₂⟩
  · obtain ⟨w', hpopulate, huntold⟩ := populate_of_unmounted image unpacker source hmade
      hmount
    have htold := (mount_announces image answers mountpoint).told w₁
    rw [hmount] at htold
    rw [hpopulate] at h ⊢
    exact .inl ((told_of_isPrefix hmadeLog (htold (inStage_error_iff.1 h))).trans_isPrefix
      huntold.isPrefix)
  · obtain ⟨houtcome, hafter⟩ := populate_of_mounted image unpacker source hmade hmount
    have hmounted := (mounted_untold image answers hmade hmount).isPrefix
    have htold : Told (LogRecord.Reports image "populate") w₂.log
        (fill runner unpacker image source mountpoint w₂).2.log →
        Told (LogRecord.Reports image "populate") w.log
          (populate runner unpacker dir image source w).2.log :=
      fun hfill => (told_of_isPrefix hmounted hfill).trans_isPrefix hafter.isPrefix
    by_cases hreports : unpacker.Reports image source mountpoint w₂.files
    · exact .inl (htold (fill_told_of_reports image runner _ _ _ _ hreports))
    rw [houtcome] at h
    rcases inStage_firstError h with hfill | ⟨⟨linked, hfilled⟩, e, hunmount⟩
    · rcases fill_told image runner _ _ _ _ hfill with hfill | ⟨r, causes, hrefused⟩
      · exact .inl (htold hfill)
      · exact .inr (.unpacking hmade hmount hrefused hreports)
    · exact .inr (.unmounting hmade hmount (Prod.ext hfilled rfl) hunmount hreports)

end Populate

end Population

namespace Shrinking

theorem check_announces (answers : runner.Answers) (device : LoopDevice) :
    Announces (LogRecord.Reports image "shrink") (check runner image device) := by
  refine (announces_call answers _ none).bind fun r => ?_
  split
  · exact announces_pure _
  · split
    · exact announces_record (not_reports rfl)
    · exact (announces_decimal _).bind fun _ => announces_record (not_reports rfl)

theorem estimate_announces (answers : runner.Answers) (device : LoopDevice) :
    Announces (LogRecord.Reports image "shrink") (estimate runner image device) := by
  refine (announces_record (not_reports rfl)).bind fun _ => ?_
  refine (announces_call answers _ none).bind fun r => ?_
  by_cases hok : r.ok = true
  · simp only [hok, Bool.not_true, Bool.false_eq_true, if_false]
    rcases TrailingNumber.read (estimateText r) with ⟨fault, causes⟩ | blocks
    · cases fault with
      | stage f => exact announces_record_throw ⟨rfl, rfl, rfl⟩ _
      | _ => exact announces_throw fun _ h => nomatch h
    · exact (announces_decimal _).bind fun _ => (announces_record (not_reports rfl)).bind fun _ =>
        announces_pure _
  · simp only [hok, Bool.not_false, if_true]
    exact announces_refusal ⟨rfl, rfl, rfl⟩ r.exitStatus _

theorem resize_announces (answers : runner.Answers) (device : LoopDevice) (blocks : Nat) :
    Announces (LogRecord.Reports image "shrink") (resize runner image device blocks) := by
  refine (announces_decimal _).bind fun text => (announces_call answers _ none).bind fun r => ?_
  split
  · exact announces_pure _
  · exact announces_refusal ⟨rfl, rfl, rfl⟩ r.exitStatus _

theorem shrinkDevice_announces (answers : runner.Answers) (device : LoopDevice) :
    Announces (LogRecord.Reports image "shrink") (shrinkDevice runner image device) :=
  (check_announces image answers device).bind fun _ =>
    (estimate_announces image answers device).bind fun blocks =>
      (resize_announces image answers device blocks).bind fun _ => announces_pure _

theorem plain_truncateFile (size : Int) : Plain (truncateFile image size) :=
  plain_of_failsWith (failsWith_truncateFile (covers_outOfStage _) fun _ _ h => nomatch h)

theorem truncate_announces (minimum : MinimumSize) :
    Announces (LogRecord.Reports image "shrink") (truncate (σ := σ) image minimum) := by
  refine (announces_decimal _).bind fun text => ?_
  refine (announces_record (not_reports rfl)).bind fun _ => ?_
  refine announces_onFiles_bind fun fs => ?_
  have hplain := plain_truncateFile image minimum.bytes fs
  generalize (truncateFile image minimum.bytes fs).1 = x at hplain
  rcases x with ⟨fault, causes⟩ | _
  · cases fault with
    | stage f => exact absurd ⟨f, causes, rfl⟩ hplain
    | refusal r => exact announces_record_throw ⟨rfl, rfl, rfl⟩ _
    | _ => exact announces_throw fun _ h => nomatch h
  · exact announces_pure _

/-- The failures to shrink an image that no record reports. -/
inductive Unreported (runner : Runner σ) (image : Image) (w : Run σ) : Prop
  /-- The image is not attached to a device. -/
  | attaching {e : Failure}
      (fails : (LoopDevice.attach runner image.fsPath.text false (some image.uid) w).1 = .error e)
  /-- The file system was shrunk and its device cannot be detached. -/
  | detaching {device : LoopDevice} {w₁ w₂ : Run σ} {blocks : Nat} {e : Failure}
      (attached : LoopDevice.attach runner image.fsPath.text false (some image.uid) w =
        (.ok device, w₁))
      (shrunk : shrinkDevice runner image device w₁ = (.ok blocks, w₂))
      (fails : (LoopDevice.detach runner device (some image.uid) w₂).1 = .error e)

section Shrink

variable {device : LoopDevice} {w w₁ : Run σ} {e : Failure}

/-- The steps on the device of an image, which is detached after them. -/
def shrinkAttached (runner : Runner σ) (image : Image) (device : LoopDevice) : Procedure σ Nat :=
  releaseAfter (LoopDevice.detach runner device (some image.uid))
    (some (LoopDevice.recordSuppressed (some image.uid))) (shrinkDevice runner image device)

theorem shrink_of_unattached
    (h : LoopDevice.attach runner image.fsPath.text false (some image.uid) w = (.error e, w₁)) :
    shrink runner image w = (.error e.escaped, w₁) := by
  unfold shrink LoopDevice.withDevice
  simp only [Action.bind_apply, Action.mapFailure_apply, h, Except.mapError]

theorem shrink_of_attached
    (h : LoopDevice.attach runner image.fsPath.text false (some image.uid) w = (.ok device, w₁)) :
    shrink runner image w =
      (shrinkAttached runner image device >>= fun blocks => do
        truncate image { blocks }
        return { blocks }) w₁ := by
  unfold shrink LoopDevice.withDevice shrinkAttached
  simp only [Action.bind_apply, Action.mapFailure_apply, h, Except.mapError]

theorem attach_untold (runner : Runner σ) (w : Run σ) :
    Untold (LogRecord.Reports image "shrink") w.log
      (LoopDevice.attach runner image.fsPath.text false (some image.uid) w).2.log :=
  LoopDevice.attach_writes runner (fun _ _ hr => nomatch hr.2.2) _ _ w

theorem shrinkAttached_eq (runner : Runner σ) (device : LoopDevice) (w : Run σ) :
    (shrinkAttached runner image device w).1 =
        firstError (shrinkDevice runner image device w).1
          (LoopDevice.detach runner device (some image.uid)
            (shrinkDevice runner image device w).2).1 ∧
      Untold (LogRecord.Reports image "shrink") (shrinkDevice runner image device w).2.log
        (shrinkAttached runner image device w).2.log := by
  have hdetach : Writes (fun r => ¬r.Reports image "shrink")
      (LoopDevice.detach runner device (some image.uid)) :=
    LoopDevice.detach_writes runner (fun _ _ hr => nomatch hr.2.2) device
  have hlisten : ∀ e, Writes (fun r => ¬r.Reports image "shrink")
      (LoopDevice.recordSuppressed (σ := σ) (some image.uid) e) :=
    fun e => writes_record (not_reports rfl)
  exact ⟨(releaseAfter_eq _ _ (fun _ => logs_record _) _ w).1,
    settle_untold hdetach hlisten _ w⟩

theorem shrink_untold (answers : runner.Answers) (h : Unreported runner image w) :
    Untold (LogRecord.Reports image "shrink") w.log (shrink runner image w).2.log := by
  have hattach := attach_untold image runner w
  cases h with
  | attaching fails =>
    rcases hattached : LoopDevice.attach runner image.fsPath.text false (some image.uid) w with
      ⟨e | device, w₁⟩
    · rw [hattached] at hattach
      rw [shrink_of_unattached image hattached]
      exact hattach
    · rw [hattached] at fails
      exact nomatch fails
  | @detaching device w₁ w₂ blocks e attached shrunk fails =>
    have hshrunk := (shrinkDevice_announces image answers device).untold w₁ blocks
      (congrArg Prod.fst shrunk)
    obtain ⟨houtcome, hafter⟩ := shrinkAttached_eq image runner device w₁
    rw [shrunk] at houtcome hafter hshrunk
    rw [attached] at hattach
    rw [fails] at houtcome
    rw [shrink_of_attached image attached, Action.bind_apply]
    generalize shrinkAttached runner image device w₁ = x at houtcome hafter
    obtain ⟨o, w₃⟩ := x
    obtain rfl : o = .error e.escaped := houtcome
    exact (hattach.trans hshrunk).trans hafter

theorem shrink_told_or_unreported (answers : runner.Answers)
    (h : InStage (shrink runner image w).1) :
    Told (LogRecord.Reports image "shrink") w.log (shrink runner image w).2.log ∨
      Unreported runner image w := by
  have hattach := (attach_untold image runner w).isPrefix
  rcases hattached : LoopDevice.attach runner image.fsPath.text false (some image.uid) w with
    ⟨e | device, w₁⟩
  · exact .inr (.attaching (congrArg Prod.fst hattached))
  obtain ⟨houtcome, hafter⟩ := shrinkAttached_eq image runner device w₁
  have hdevice := shrinkDevice_announces image answers device
  have htruncate : ∀ blocks : Nat, Announces (LogRecord.Reports image "shrink")
      (do truncate image { blocks }; return { blocks } : Procedure σ MinimumSize) :=
    fun blocks => (truncate_announces image _).bind fun _ => announces_pure _
  have hgrows := (hdevice.grows w₁).trans hafter.isPrefix
  rw [hattached] at hattach
  rw [shrink_of_attached image hattached, Action.bind_apply] at h ⊢
  rcases hshrunk : shrinkAttached runner image device w₁ with ⟨e | blocks, w₂⟩
  · rw [hshrunk] at h houtcome hafter
    dsimp only at houtcome
    have hfirst : InStage (.error e : Except Failure Nat) := inStage_error_iff.1 h
    rw [houtcome] at hfirst
    rcases inStage_firstError hfirst with hfailed | ⟨⟨blocks, hdone⟩, e, hdetach⟩
    · exact .inl (told_of_isPrefix hattach
        ((hdevice.told w₁ hfailed).trans_isPrefix hafter.isPrefix))
    · exact .inr (.detaching hattached (Prod.ext hdone rfl) hdetach)
  · rw [hshrunk] at h hgrows
    exact .inl (told_of_isPrefix (hattach.trans hgrows) ((htruncate blocks).told w₂ h))

end Shrink

end Shrinking

/-- The failure of a stage is reported, where every call is answered, unless it is one of these. -/
theorem failures_reported_iff (answers : runner.Answers) (w : Run σ) :
    (∀ size, InStage (Allocation.build runner image size w).1 →
      Told (LogRecord.Reports image "format") w.log
        (Allocation.build runner image size w).2.log) ∧
    (∀ unpacker dir source, InStage (Population.populate runner unpacker dir image source w).1 →
      (Told (LogRecord.Reports image "populate") w.log
          (Population.populate runner unpacker dir image source w).2.log ↔
        ¬Population.Unreported runner unpacker dir image source w)) ∧
    (InStage (Shrinking.shrink runner image w).1 →
      (Told (LogRecord.Reports image "shrink") w.log (Shrinking.shrink runner image w).2.log ↔
        ¬Shrinking.Unreported runner image w)) := by
  refine ⟨fun size => (Allocation.build_announces image answers size).told w,
    fun unpacker dir source hfails => ⟨fun htold hsilent => ?_, fun hnot => ?_⟩,
    fun hfails => ⟨fun htold hsilent => ?_, fun hnot => ?_⟩⟩
  · exact not_told_of_untold (Population.populate_untold image answers hsilent) htold
  · exact (Population.populate_told_or_unreported image answers hfails).resolve_right hnot
  · exact not_told_of_untold (Shrinking.shrink_untold image answers hsilent) htold
  · exact (Shrinking.shrink_told_or_unreported image answers hfails).resolve_right hnot

/-- A runner all of whose calls fail. -/
def failingRunner : Runner Unit where
  run argv _ s := (⟨.ok { argv, exitStatus := 1 }, none⟩, s)
  ensureAvailable _ _ := .ok ()

/-- A run on an image of a host that has nothing but a directory to work in. -/
def bareRun : Run Unit :=
  { files := FileSystem.bare ["work"], runner := () }

/-- An image that cannot be attached to a device. -/
def unattachedImage : Image :=
  { uid := "guest", objectPath := ⟨.top, [.name "images", .name "guest"]⟩ }

theorem shrink_unattachedImage_unreported :
    failingRunner.Answers ∧ InStage (Shrinking.shrink failingRunner unattachedImage bareRun).1 ∧
      ¬Told (LogRecord.Reports unattachedImage "shrink") bareRun.log
        (Shrinking.shrink failingRunner unattachedImage bareRun).2.log := by
  have answers : failingRunner.Answers := fun argv _ _ => ⟨{ argv, exitStatus := 1 }, rfl⟩
  have hshrink : InStage (Shrinking.shrink failingRunner unattachedImage bareRun).1 :=
    ⟨_, _, rfl⟩
  have hattach : (LoopDevice.attach failingRunner unattachedImage.fsPath.text false
      (some unattachedImage.uid) bareRun).1 = .error _ := rfl
  obtain ⟨-, -, hreported⟩ := failures_reported_iff unattachedImage answers bareRun
  exact ⟨answers, hshrink, fun htold => (hreported hshrink).1 htold (.attaching hattach)⟩

end GuestImage
