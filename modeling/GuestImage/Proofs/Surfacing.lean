import GuestImage.Proofs.Leaving
import GuestImage.Proofs.Naming
import GuestImage.Proofs.Refusing
import GuestImage.Proofs.Repeating

/-!
# What comes out of populating an image

Where populating an image fails, what comes out is a failure of its stage that names the image, or
the failure of the unpacker, which is made to name it. A refusal of the system is the cause of a
failure that says at which step it came about. None of it depends on how the unmounting ends: where
that fails as well, the earlier failure comes out, and a record is all there is of the later one
(`populate_surfaces`).

That the image was unmounted already is no failure, whatever status says so, and no record is
written of it (`populate_unmounted_unheard`).
-/

namespace GuestImage

variable {σ : Type}

namespace NameResolution

/-- Making sure of the name servers fails only for a refusal or for a step up from the root. -/
theorem fails_ensure {fs : FileSystem} {root : Path} (hfs : fs.Sayable)
    (hroot : '\x00' ∉ root.text.toList) :
    Fails (fun e => e.isRefusal = true ∨ e = outside directory) (ensure root fs).1 := by
  have hcovers : ∀ {text : String}, '\x00' ∉ text.toList →
      Covers (fun e => e.isRefusal = true ∨ e = outside directory) text :=
    covers_of_notMem fun _ => .inl
  have hdirectory : (setOut directory).Sayable := ⟨nofun, by simp [setOut, directory]⟩
  obtain ⟨answer, hanswer⟩ := exists_isNonEmptyFile_eq hfs hroot sayable_setOut_file
  rw [ensure_apply]
  rcases resolve_sayable_cases hfs hroot hdirectory with ⟨names, hnames, hpath⟩ | ⟨e, herror, he⟩
  · rw [hpath, hanswer]
    have hbelow := notMem_text_below hroot hnames
    have hlink : '\x00' ∉ ((below root names).child fileName).text.toList := by
      simpa using Path.contains_text_child (n := fileName) (by simpa using hbelow) (by decide)
    cases answer with
    | true => exact fails_ok false
    | false =>
      exact ((failsWith_makeDirectories (hcovers hbelow) _).bind fun _ =>
        failsWith_putLink (hcovers hlink)) fs
  · rw [herror]
    exact fails_error he

end NameResolution

namespace Population

/-- The kinds of failures to populate an image, each with its step. -/
def failureKinds : List (ErrorCode × String) :=
  [(.mount, "mkdtemp"), (.mount, "mount"), (.mount, "unmount"), (.extraction, "extract"),
    (.resolvSetup, "resolv_conf")]

/-- A failure of one of the kinds, which names the image. -/
def OfStep (image : Image) (e : Failure) : Prop :=
  ∃ kind ∈ failureKinds, e.Tells kind.1 kind.2 image.uid

/-- Whether a record warns of an image that could not be unmounted. -/
def saysHeld (r : LogRecord) : Bool :=
  r.operation = "unmount" && r.level = "warning"

/-- What a failure to make a directory to mount an image on is reported as. -/
def mountpointFailure (image : Image) (e : Failure) : Failure :=
  match e.fault with
  | .refusal r =>
    .caused
      (.stage
        { code := .mount
          message := "Failed to create a mountpoint for image " ++ image.uid ++ "."
          context := ⟨[("image", image.uid), ("operation", "mkdtemp"), ("cause", r.text)]⟩ })
      e
  | _ => e

/-- An image comes to be mounted on a directory that was made for it. -/
def Mounts (runner : Runner σ) (dir : Path) (image : Image) (w : Run σ) (d : Path)
    (w' : Run σ) : Prop :=
  ∃ w₁, makeMountpoint image dir (started image w) = (.ok d, w₁) ∧
    mount runner image d w₁ = (.ok (), w')

/-- What was refused at a step comes out as a failure of the step, and as its cause. -/
def ArrivesAs (image : Image) (code : ErrorCode) (operation : String) (cause : Failure)
    (o : Except Failure Bool) : Prop :=
  ∃ e, o = .error e ∧ e.Tells code operation image.uid ∧ e.causes = cause.chain

/-- What comes out of populating an image. -/
structure Surfaces (runner : Runner σ) (unpacker : Unpacker) (dir : Path) (image : Image)
    (source : Source) (w : Run σ) : Prop where
  /-- What is said of the link is what making sure of it said. -/
  returned : ∀ linked, (populate runner unpacker dir image source w).1 = .ok linked →
    ∃ d w₁ w₂, Mounts runner dir image w d w₁ ∧
      Unpacker.unpack runner unpacker source d w₁ = (.ok (), w₂) ∧
      (NameResolution.ensure d w₂.files).1 = .ok linked
  /-- A failure names the image, and is of a step or the unpacker's own. -/
  raised : ∀ e, (populate runner unpacker dir image source w).1 = .error e → e.Names image.uid ∧
    (OfStep image e ∨ ∃ d w₁ own, Mounts runner dir image w d w₁ ∧
      (Unpacker.unpack runner unpacker source d w₁).1 = .error own ∧ own.isRefusal = false ∧
      e = own.annotate [("image", image.uid)])
  /-- There is no directory to mount the image on. -/
  unmade : ∀ cause, (makeFreshDirectory dir maxTries (started image w)).1 = .error cause →
    cause.isRefusal = true ∧
      ArrivesAs image .mount "mkdtemp" cause (populate runner unpacker dir image source w).1
  /-- The unpacker is refused something. -/
  refused : ∀ d w₁, Mounts runner dir image w d w₁ →
    ∀ cause, (Unpacker.unpack runner unpacker source d w₁).1 = .error cause →
      cause.isRefusal = true →
        ArrivesAs image .extraction "extract" cause (populate runner unpacker dir image source w).1
  /-- The unpacker fails in a stage. -/
  own : ∀ d w₁, Mounts runner dir image w d w₁ →
    ∀ e, (Unpacker.unpack runner unpacker source d w₁).1 = .error e → e.isRefusal = false →
      (populate runner unpacker dir image source w).1 = .error (e.annotate [("image", image.uid)])
  /-- Making sure of the name servers is refused something. -/
  unserved : ∀ d w₁, Mounts runner dir image w d w₁ →
    ∀ w₂, Unpacker.unpack runner unpacker source d w₁ = (.ok (), w₂) →
      ∀ cause, (NameResolution.ensure d w₂.files).1 = .error cause → cause.isRefusal = true →
        ArrivesAs image .resolvSetup "resolv_conf" cause
          (populate runner unpacker dir image source w).1
  /-- The unmounting fails after an earlier failure, or does not. -/
  settled : ∀ d w₁, Mounts runner dir image w d w₁ →
    ∀ e w₂, fill runner unpacker image source d w₁ = (.error e, w₂) →
      ∀ r, (Procedure.call runner ["umount", d.text] none w₂).1 = .ok r →
        (populate runner unpacker dir image source w).1 = .error e ∧
          Log.Gains saysHeld
            ((unpacker.ownRecords source d w₁.files).filter saysHeld ++
              if r.ok || r.isGone then []
              else [suppressed image (refusal r (unmountFailure image d r))])
            w.log (populate runner unpacker dir image source w).2.log

section Mountpoint

variable {image : Image} {dir d : Path} {fs fs' : FileSystem}

theorem zero_notMem_name (n : Nat) : '\x00' ∉ (mountpointStem ++ toString n).toList := by
  rw [String.toList_append, List.mem_append, not_or]
  refine ⟨by decide, fun h => ?_⟩
  have hdigit : '\x00'.isDigit = true := Decimal.isDigit_of_mem_digits (n := n)
    (by simpa [Decimal.digits] using h)
  exact absurd hdigit (by decide)

/-- There is no fresh directory to be made only where the system refuses one. -/
theorem isRefusal_of_makeFreshDirectory (hdir : '\x00' ∉ dir.text.toList) (tries : Nat) :
    ∀ w : Run σ, Fails (fun e => e.isRefusal = true) (makeFreshDirectory dir tries w).1 := by
  induction tries with
  | zero => exact fun _ => fails_error rfl
  | succ tries ih =>
    intro w
    have htext : '\x00' ∉
        (Path.joinText dir.text (mountpointStem ++ toString w.nextTemporary)).toList :=
      fun h => (Path.zero_mem_joinText h).elim hdir (zero_notMem_name _)
    have hmade := w.files.fails_makeDirectoryAt (covers_of_notMem (fun _ => id) htext)
      (dir.child (mountpointStem ++ toString w.nextTemporary)).route mountpointMode
    rw [makeFreshDirectory_succ]
    dsimp only
    split
    · exact fails_ok _
    · rename_i e he
      -- a name that is taken is passed over, and any other refusal is the end of it
      split
      · exact ih _
      · exact fails_error (hmade e he)

theorem Fresh.zero_notMem (h : Fresh dir fs d fs') (hdir : '\x00' ∉ dir.text.toList) :
    '\x00' ∉ d.text.toList := by
  obtain ⟨name, rfl, hmade⟩ := h
  -- the system would not have been asked for such a name
  have hname : '\x00' ∉ name.toList := fun hzero => by
    unfold FileSystem.makeDirectoryAt at hmade
    rw [fs.locate_zero (Path.mem_joinText hzero)] at hmade
    cases hmade
  simpa using Path.contains_text_child (n := name) (by simpa using hdir) (by simpa using hname)

theorem makeMountpoint_outcome (image : Image) (dir : Path) (w : Run σ) :
    (makeMountpoint image dir w).1 =
      (makeFreshDirectory dir maxTries w).1.mapError (mountpointFailure image) := by
  unfold makeMountpoint mountpointFailure
  rw [Action.bind_apply, Action.attempt_apply]
  rcases makeFreshDirectory dir maxTries w with ⟨⟨fault, causes⟩ | d, w'⟩
  · cases fault with
    | _ => rfl
  · rfl

theorem mountpointFailure_of_refusal {cause : Failure} (image : Image)
    (h : cause.isRefusal = true) :
    (mountpointFailure image cause).Tells .mount "mkdtemp" image.uid ∧
      (mountpointFailure image cause).causes = cause.chain :=
  tells_of_refusal (fun _ _ => rfl) h

theorem fails_makeMountpoint (hdir : '\x00' ∉ dir.text.toList) (image : Image) (w : Run σ) :
    Fails (Failure.Tells .mount "mkdtemp" image.uid) (makeMountpoint image dir w).1 := by
  have hfresh := isRefusal_of_makeFreshDirectory hdir maxTries w
  rw [makeMountpoint_outcome]
  generalize (makeFreshDirectory dir maxTries w).1 = o at hfresh
  rcases o with cause | d
  · exact fails_error (mountpointFailure_of_refusal image (hfresh cause rfl)).1
  · exact fails_ok d

end Mountpoint

section Steps

variable {runner : Runner σ} {unpacker : Unpacker} {image : Image} {source : Source} {d : Path}
  {w : Run σ} {cause : Failure}

theorem fails_mountVerdict (image : Image) (d : Path) {r : ToolResult}
    (told : Writable r.exitStatus) :
    Fails (Failure.Tells .mount "mount" image.uid) (mountVerdict image d r) := by
  unfold mountVerdict
  split_ifs
  · exact fails_ok ()
  · exact (strays_refusal r fun _ => ⟨_, rfl, rfl, rfl, rfl, rfl⟩).fails (not_not_intro told)

theorem fails_unmountVerdict (image : Image) (d : Path) {r : ToolResult}
    (told : Writable r.exitStatus) :
    Fails (Failure.Tells .mount "unmount" image.uid) (unmountVerdict image d r) := by
  unfold unmountVerdict
  split_ifs
  · exact fails_ok ()
  · exact (strays_refusal r fun _ => ⟨_, rfl, rfl, rfl, rfl, rfl⟩).fails (not_not_intro told)

theorem fails_mount (answers : runner.AnswersTold) (image : Image) (d : Path) :
    ∀ w, Fails (Failure.Tells .mount "mount" image.uid) (mount runner image d w).1 :=
  (mount_asks runner image d).fails answers fun _ => fails_mountVerdict image d

theorem fails_unmount (answers : runner.AnswersTold) (image : Image) (d : Path) :
    ∀ w, Fails (Failure.Tells .mount "unmount" image.uid) (unmount runner image d w).1 :=
  (unmount_asks runner image d).fails answers fun _ => fails_unmountVerdict image d

theorem extractionFailure_of_refusal (image : Image) (h : cause.isRefusal = true) :
    (extractionFailure image cause).Tells .extraction "extract" image.uid ∧
      (extractionFailure image cause).causes = cause.chain :=
  tells_of_refusal (fun _ _ => rfl) h

theorem extractionFailure_of_stage (image : Image) (h : cause.isRefusal = false) :
    extractionFailure image cause = cause.annotate [("image", image.uid)] := by
  obtain ⟨fault, causes⟩ := cause
  cases fault with
  | refusal r => cases h
  | _ => rfl

theorem nameServersFailure_of_refusal (image : Image) (h : cause.isRefusal = true) :
    (nameServersFailure image cause).Tells .resolvSetup "resolv_conf" image.uid ∧
      (nameServersFailure image cause).causes = cause.chain :=
  tells_of_refusal (fun _ _ => rfl) h

theorem nameServersFailure_tells (image : Image)
    (h : cause.isRefusal = true ∨ cause = NameResolution.outside NameResolution.directory) :
    (nameServersFailure image cause).Tells .resolvSetup "resolv_conf" image.uid := by
  rcases h with h | rfl
  · exact (nameServersFailure_of_refusal image h).1
  · exact ⟨_, rfl, rfl, rfl, rfl, rfl⟩

theorem fill_of_refused (h : (Unpacker.unpack runner unpacker source d w).1 = .error cause) :
    (fill runner unpacker image source d w).1 = .error (extractionFailure image cause) := by
  have ho := (unpackInto_eq runner unpacker image source d w).1
  rw [h] at ho
  unfold fill
  rw [Action.bind_apply]
  generalize unpackInto runner unpacker image source d w = x at ho
  obtain ⟨o, w'⟩ := x
  obtain rfl : o = .error (extractionFailure image cause) := ho
  rfl

theorem fill_of_unpacked {w' : Run σ}
    (h : Unpacker.unpack runner unpacker source d w = (.ok (), w')) :
    (fill runner unpacker image source d w).1 =
      (NameResolution.ensure d w'.files).1.mapError (nameServersFailure image) := by
  obtain ⟨ho, hfiles, -⟩ := unpackInto_eq runner unpacker image source d w
  rw [h] at ho hfiles
  unfold fill
  rw [Action.bind_apply]
  generalize unpackInto runner unpacker image source d w = x at ho hfiles
  obtain ⟨o, w''⟩ := x
  obtain rfl : o = .ok () := ho
  have hfiles : w''.files = w'.files := hfiles
  rw [← hfiles]
  exact (setUpNameServers_eq image d w'').1

end Steps

section Populate

variable {runner : Runner σ} {unpacker : Unpacker} {image : Image} {source : Source} {dir d : Path}
  {w w₁ w₂ : Run σ} {e : Failure}

theorem Mounts.zero_notMem (h : Mounts runner dir image w d w₁)
    (hdir : '\x00' ∉ dir.text.toList) : '\x00' ∉ d.text.toList := by
  obtain ⟨w₀, made, -⟩ := h
  have hcases := makeMountpoint_cases image dir (started image w)
  simp only [made, reduceCtorEq, false_and, exists_false, or_false, Except.ok.injEq,
    exists_eq_left'] at hcases
  exact hcases.1.zero_notMem hdir

/-- A failure while the image is mounted is not replaced by that of the unmounting. -/
theorem populate_of_failed (answers : runner.AnswersTold) (h : Mounts runner dir image w d w₁)
    (hfill : (fill runner unpacker image source d w₁).1 = .error e) :
    (populate runner unpacker dir image source w).1 = .error e := by
  obtain ⟨w₀, made, mounted⟩ := h
  rw [(populate_of_mounted image unpacker source made mounted).1, hfill]
  exact firstError_error fun u hu => (fails_unmount answers image d _ u hu).isOrdinary

theorem foreign_saysHeld (image : Image) : Foreign saysHeld image := by
  constructor <;> simp [Unpacker.operations, saysHeld, Unpacker.recordOf, recordOf]

theorem heard_unmountVerdict {r : ToolResult} (told : Writable r.exitStatus) :
    heard (suppressed image) (.error e : Except Failure Bool) (unmountVerdict image d r) =
      if r.ok || r.isGone then []
      else [suppressed image (refusal r (unmountFailure image d r))] := by
  have hfails := fails_unmountVerdict image d told
  unfold unmountVerdict at hfails ⊢
  split_ifs at hfails ⊢
  · rfl
  · rw [heard, if_pos (hfails _ rfl).isOrdinary]

theorem gains_heard (image : Image) (d : Path) (e : Failure) {r : ToolResult}
    (told : Writable r.exitStatus) (before : Log) :
    Log.Gains saysHeld
      (if r.ok || r.isGone then [] else [suppressed image (refusal r (unmountFailure image d r))])
      before (before ++ heard (suppressed image) (.error e : Except Failure Bool)
        (unmountVerdict image d r)) := by
  refine ⟨_, rfl, ?_⟩
  rw [heard_unmountVerdict told]
  split_ifs <;> rfl

theorem Mounts.gains (h : Mounts runner dir image w d w₁) :
    Log.Gains saysHeld [] w.log w₁.log := by
  obtain ⟨w₀, made, mounted⟩ := h
  have hstarted : Log.Gains saysHeld [] w.log (started image w).log := ⟨[_], rfl, rfl⟩
  have hmade : Log.Gains saysHeld [] _ _ :=
    .of_writes (makeMountpoint_writes image dir) (started image w)
  have hmounted : Log.Gains saysHeld [] _ _ := .of_writes (mount_writes image runner d rfl) w₀
  rw [made] at hmade
  rw [mounted] at hmounted
  exact (hstarted.trans_nil hmade).trans_nil hmounted

/-- Of an image that could not be unmounted there is one record if something had failed before. -/
theorem populate_gains (answers : runner.AnswersTold) (h : Mounts runner dir image w d w₁)
    (hfill : fill runner unpacker image source d w₁ = (.error e, w₂)) {r : ToolResult}
    (hr : (Procedure.call runner ["umount", d.text] none w₂).1 = .ok r) :
    Log.Gains saysHeld
      ((unpacker.ownRecords source d w₁.files).filter saysHeld ++
        if r.ok || r.isGone then []
        else [suppressed image (refusal r (unmountFailure image d r))])
      w.log (populate runner unpacker dir image source w).2.log := by
  have hmounts := h.gains
  obtain ⟨w₀, made, mounted⟩ := h
  obtain ⟨w₃, hrun, -, -, hlog⟩ := populate_of_accepted unpacker source made mounted
  have told : Writable r.exitStatus := by
    obtain ⟨r', hr', told⟩ := answers ["umount", d.text] none (w₂.runner, w₂.files)
    obtain rfl := Except.ok.inj (hr.symm.trans hr')
    exact told
  have hfilled := fill_gains runner unpacker source d w₁ (foreign_saysHeld image)
  rw [hfill] at hfilled hlog
  dsimp only at hlog
  rw [(unmount_asks runner image d).outcome_eq, hr] at hlog
  -- of the steps from here on, only the listener to the unmounting writes such a record
  have hunmounted : Log.Gains saysHeld [] _ _ := .of_writes (unmount_writes image runner d) w₂
  have hheard := gains_heard image d e told (unmount runner image d w₂).2.log
  have hleft : Log.Gains saysHeld [] _ _ := .of_writes
    (leaveMountpoint_writes image runner d (!(unmount runner image d w₂).1.isOk) fun _ => rfl) w₃
  rw [hrun, hfill]
  rw [hlog] at hleft
  exact ((hmounts.trans hfilled).trans_nil hunmounted).trans (hheard.trans_nil hleft)

theorem ofStep_of_tells {code : ErrorCode} {operation : String}
    (h : e.Tells code operation image.uid) (hkind : (code, operation) ∈ failureKinds) :
    OfStep image e :=
  ⟨_, hkind, h⟩

/-- Where no image comes to be mounted, that is the failure of a step. -/
theorem fails_or_mounts (answers : runner.AnswersTold) (named : '\x00' ∉ dir.text.toList)
    (unpacker : Unpacker) (image : Image) (source : Source) (w : Run σ) :
    (∃ e, (populate runner unpacker dir image source w).1 = .error e ∧ OfStep image e) ∨
      ∃ d w₁, Mounts runner dir image w d w₁ := by
  have hmake := fails_makeMountpoint named image (started image w)
  rcases made : makeMountpoint image dir (started image w) with ⟨e | d, w₀⟩
  · rw [made] at hmake
    rw [populate_of_unmade image made]
    exact .inl ⟨e, rfl, ofStep_of_tells (hmake e rfl) (by simp [failureKinds])⟩
  have hmount := fails_mount answers image d w₀
  rcases mounted : mount runner image d w₀ with ⟨e | _, w₁⟩
  · rw [mounted] at hmount
    obtain ⟨w', hrun, -⟩ := populate_of_unmounted image unpacker source made mounted
    rw [hrun]
    exact .inl ⟨e, rfl, ofStep_of_tells (hmount e rfl) (by simp [failureKinds])⟩
  · exact .inr ⟨d, w₁, w₀, made, mounted⟩

/-- A failure to fill an image is of a step, or it is the unpacker's own. -/
theorem fill_error (named : '\x00' ∉ d.text.toList)
    (sayable : (Unpacker.unpack runner unpacker source d w₁).2.files.Sayable)
    (hfill : (fill runner unpacker image source d w₁).1 = .error e) :
    OfStep image e ∨ ∃ own, (Unpacker.unpack runner unpacker source d w₁).1 = .error own ∧
      own.isRefusal = false ∧ e = own.annotate [("image", image.uid)] := by
  rcases hunpack : Unpacker.unpack runner unpacker source d w₁ with ⟨cause | _, w₂⟩
  · rw [fill_of_refused (congrArg Prod.fst hunpack)] at hfill
    obtain rfl := Except.error.inj hfill
    cases hrefusal : cause.isRefusal with
    | true =>
      exact .inl (ofStep_of_tells (extractionFailure_of_refusal image hrefusal).1
        (by simp [failureKinds]))
    | false => exact .inr ⟨cause, rfl, hrefusal, extractionFailure_of_stage image hrefusal⟩
  · rw [hunpack] at sayable
    have hensure := NameResolution.fails_ensure sayable named
    rw [fill_of_unpacked hunpack] at hfill
    generalize (NameResolution.ensure d w₂.files).1 = o at hensure hfill
    rcases o with cause | linked
    · obtain rfl := Except.error.inj hfill
      exact .inl (ofStep_of_tells (nameServersFailure_tells image (hensure cause rfl))
        (by simp [failureKinds]))
    · cases hfill

theorem fill_ok {linked : Bool} (hfill : (fill runner unpacker image source d w₁).1 = .ok linked) :
    ∃ w₂, Unpacker.unpack runner unpacker source d w₁ = (.ok (), w₂) ∧
      (NameResolution.ensure d w₂.files).1 = .ok linked := by
  rcases hunpack : Unpacker.unpack runner unpacker source d w₁ with ⟨cause | _, w₂⟩
  · rw [fill_of_refused (congrArg Prod.fst hunpack)] at hfill
    cases hfill
  · rw [fill_of_unpacked hunpack] at hfill
    generalize hensure : (NameResolution.ensure d w₂.files).1 = o at hfill
    rcases o with cause | linked'
    · cases hfill
    · exact ⟨w₂, rfl, hensure.trans (congrArg _ (Except.ok.inj hfill))⟩

theorem populate_error (h : Mounts runner dir image w d w₁)
    (hfails : (populate runner unpacker dir image source w).1 = .error e)
    (answers : runner.AnswersTold) :
    (fill runner unpacker image source d w₁).1 = .error e ∨
      e.Tells .mount "unmount" image.uid := by
  cases hfill : (fill runner unpacker image source d w₁).1 with
  | error e' =>
    rw [populate_of_failed answers h hfill] at hfails
    exact .inl hfails
  | ok linked =>
    obtain ⟨w₀, made, mounted⟩ := h
    have hunmount := fails_unmount answers image d (fill runner unpacker image source d w₁).2
    rw [(populate_of_mounted image unpacker source made mounted).1, hfill] at hfails
    generalize (unmount runner image d _).1 = o at hunmount hfails
    rcases o with u | _
    · obtain rfl := Except.error.inj hfails
      have htells := hunmount u rfl
      exact .inr (htells.escaped.symm ▸ htells)
    · cases hfails

/-- Where every call is answered and the unpacker fails only with refusals and failures of a stage,
what comes out of populating an image is told by `Surfaces`. -/
theorem populate_surfaces (runner : Runner σ) (unpacker : Unpacker) (dir : Path) (image : Image)
    (source : Source) (w : Run σ) (known : image.uid ≠ "") (answers : runner.AnswersTold)
    (named : '\x00' ∉ dir.text.toList)
    (unassigned : ∀ d w₁, Fails Failure.Unassigned
      (Unpacker.unpack runner unpacker source d w₁).1)
    (sayable : ∀ d w₁, Mounts runner dir image w d w₁ →
      (Unpacker.unpack runner unpacker source d w₁).2.files.Sayable) :
    Surfaces runner unpacker dir image source w where
  returned linked h := by
    rcases fails_or_mounts answers named unpacker image source w with
      ⟨e, he, -⟩ | ⟨d, w₁, hmounts⟩
    · cases he.symm.trans h
    have hmounts' := hmounts
    obtain ⟨w₀, made, mounted⟩ := hmounts
    rw [(populate_of_mounted image unpacker source made mounted).1] at h
    obtain ⟨w₂, hunpack, hensure⟩ := fill_ok (firstError_eq_ok.1 h).1
    exact ⟨d, w₁, w₂, hmounts', hunpack, hensure⟩
  raised e h := by
    have hnames : OfStep image e → e.Names image.uid := fun ⟨_, _, htells⟩ => htells.names known
    rcases fails_or_mounts answers named unpacker image source w with
      ⟨e', he', hstep⟩ | ⟨d, w₁, hmounts⟩
    · obtain rfl := Except.error.inj (he'.symm.trans h)
      exact ⟨hnames hstep, .inl hstep⟩
    rcases populate_error hmounts h answers with hfill | htells
    · rcases fill_error (hmounts.zero_notMem named) (sayable d w₁ hmounts) hfill with
        hstep | ⟨own, hown, hrefusal, rfl⟩
      · exact ⟨hnames hstep, .inl hstep⟩
      · exact ⟨(unassigned d w₁ own hown).names_annotate hrefusal known,
          .inr ⟨d, w₁, own, hmounts, hown, hrefusal, rfl⟩⟩
    · have hstep := ofStep_of_tells htells (by simp [failureKinds])
      exact ⟨hnames hstep, .inl hstep⟩
  unmade cause h := by
    have hrefusal := isRefusal_of_makeFreshDirectory named maxTries _ cause h
    have hmake := makeMountpoint_outcome image dir (started image w)
    rw [h] at hmake
    refine ⟨hrefusal, _, ?_, mountpointFailure_of_refusal image hrefusal⟩
    rw [populate_of_unmade image (Prod.ext hmake rfl)]
  refused d w₁ hmounts cause h hrefusal :=
    ⟨_, populate_of_failed answers hmounts (fill_of_refused h),
      extractionFailure_of_refusal image hrefusal⟩
  own d w₁ hmounts e h hrefusal := by
    rw [← extractionFailure_of_stage image hrefusal]
    exact populate_of_failed answers hmounts (fill_of_refused h)
  unserved d w₁ hmounts w₂ hunpack cause h hrefusal := by
    refine ⟨_, populate_of_failed answers hmounts ?_, nameServersFailure_of_refusal image hrefusal⟩
    rw [fill_of_unpacked hunpack, h]
    rfl
  settled d w₁ hmounts e w₂ hfill r hr :=
    ⟨populate_of_failed answers hmounts (congrArg Prod.fst hfill),
      populate_gains answers hmounts hfill hr⟩

end Populate

section Busy

/-- A runner whose calls succeed, but for those that unmount, which are answered as is given. -/
def umountingRunner (status : Int) (said : String) : Runner Unit where
  run argv _ s :=
    (⟨.ok { argv, exitStatus := if argv.head? = some "umount" then status else 0, stderr := said },
      none⟩, s)
  ensureAvailable _ _ := .ok ()

/-- An image of a host with nothing on it. -/
def loneImage : Image :=
  { uid := "guest", objectPath := ⟨.top, [.name "image"]⟩ }

/-- A run on that host. -/
def loneRun : Run Unit :=
  { files := FileSystem.bare [], runner := () }

/-- A source of nothing. -/
def nothing : Source :=
  .ofStream ⟨[], none⟩

/-- The failure of an unpacker that finds no space left. -/
def noSpace : Failure :=
  ⟨.refusal (.ofNumber 28 "No space left on device" []), []⟩

/-- An unpacker that does nothing but end in a way. -/
def endingUnpacker (o : Except Failure Unit) : Unpacker :=
  .steps fun _ _ => Action.ofExcept o

/-- Whether a call that unmounts was answered with a failure. -/
def deniesUnmount : Event → Bool
  | .called c => c.argv.head? = some "umount" && c.outcome.toOption.any fun r => !r.ok
  | _ => false

theorem populate_surfaces_busy :
    let runner := umountingRunner 32 "umount: target is busy."
    let unpacker := endingUnpacker (.error noSpace)
    let populated := populate runner unpacker (.ofText "/") loneImage nothing loneRun
    Surfaces runner unpacker (.ofText "/") loneImage nothing loneRun ∧
      populated.1 = .error (extractionFailure loneImage noSpace) ∧
      (populated.2.log.filter saysHeld).length = 1 := by
  have answers : (umountingRunner 32 "umount: target is busy.").AnswersTold := by
    intro argv stdin s
    refine ⟨_, rfl, writable_of_lt ?_⟩
    dsimp only
    split <;> decide
  have unassigned : ∀ d w, Fails Failure.Unassigned (Unpacker.unpack (umountingRunner 32
      "umount: target is busy.") (endingUnpacker (.error noSpace)) nothing d w).1 :=
    fun _ _ => fails_error (.inl rfl)
  refine ⟨populate_surfaces _ _ _ _ _ _ (by decide) answers (by decide) unassigned ?_,
    by decide +kernel, by decide +kernel⟩
  rintro d w₁ ⟨w₀, made, mounted⟩
  obtain ⟨place, hmade⟩ := makeMountpoint_made made
  obtain ⟨mode, hinserts⟩ := hmade.inserts
  have hfiles : w₁.files = w₀.files := (congrArg (fun x => x.2.files) mounted).symm
  change w₁.files.Sayable
  rw [hfiles, hinserts]
  exact (FileSystem.sayable_bare []).insert nofun

/-- After a failure, a failing call that unmounts is not recorded if it says that the image is not
mounted. And where a status or a name cannot be told, what comes out is no failure of the stage. -/
theorem populate_unmounted_unheard :
    let populated := fun runner dir o =>
      populate runner (endingUnpacker o) (.ofText dir) loneImage nothing loneRun
    let goneRunner := umountingRunner 32 "umount: /basefs-mnt-1: not mounted."
    ((populated goneRunner "/" (.error noSpace)).1 =
          .error (extractionFailure loneImage noSpace) ∧
        (populated goneRunner "/" (.error noSpace)).2.history.any deniesUnmount = true ∧
        (populated goneRunner "/" (.error noSpace)).2.log.filter saysHeld = []) ∧
      (populated (umountingRunner (10 ^ 4300) "") "/" (.ok ())).1 = .error .tooLongToWrite ∧
      (populated (umountingRunner 0 "") "a\x00b" (.ok ())).1 = .error zeroCharacter := by
  exact ⟨by decide +kernel, by decide +kernel, by decide +kernel⟩

end Busy

end Population

end GuestImage
