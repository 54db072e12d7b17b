import GuestImage.Proofs.Cutting
import GuestImage.Proofs.Naming

/-!
# What a failure to shrink an image is blamed on

Where an image is not shrunk the failure says which step of the stage it is of, and names the image
(`Blamed`). Once every tool has done its part the step is the cutting of the file. What the stage
does not foresee is told by the calls that were made (`Escapes`): above all a number of blocks whose
octets are beyond what the system takes for the size of a file, since the file system was resized to
it by then (`shrink_blamed_iff`).
-/

namespace GuestImage

variable {σ : Type}

/-- The last token of what a tool reported is a number with too many digits to be read. -/
def TrailingNumber.Unreadable (text : String) : Prop :=
  (lastToken text.toList).all Char.isDigit = true ∧
    Decimal.maxDigits < (lastToken text.toList).length

/-- A call was answered with a status that is too long to be told. -/
def Call.Untold (c : Call) : Prop :=
  ∃ r, c.outcome = .ok r ∧ ¬Writable r.exitStatus

section Digits

end Digits

namespace Shrinking

/-- The kinds of failures to shrink an image, each with its step. -/
def failureKinds : List (ErrorCode × String) :=
  [(.loopDevice, "attach"), (.loopDevice, "detach"), (.parse, "parse"), (.resize, "estimate"),
    (.resize, "resize"), (.resize, "truncate")]

/-- A failure of one of the kinds, which names the image. -/
def Blamed (image : Image) (e : Failure) : Prop :=
  ∃ kind ∈ failureKinds, e.Tells kind.1 kind.2 image.uid

/-- The file of an image cannot be cut to a number of blocks in a way that the stage foresees. -/
inductive Uncuttable (image : Image) (blocks : Nat) (fs : FileSystem) : Prop
  /-- The number of octets is too long to be told. -/
  | untold (long : ¬Writable (4096 * blocks : Nat))
  /-- The path of the file has a zero character. -/
  | zero (named : '\x00' ∈ image.fsPath.text.toList)
  /-- No file can have as many octets. -/
  | beyond {opened : Place × Content} (opens : fs.openFile image.fsPath true = .ok opened)
      (beyond : 2 ^ 63 ≤ 4096 * blocks)

/-- By the calls that were made and the files that the last of them left, an image is not shrunk
for what the stage does not foresee. -/
def Escapes (image : Image) (last : FileSystem) : List Call → Prop
  | [a] => a.Untold
  | [_, k, _] => k.Untold
  | [_, _, s, _] => s.Untold ∨ ∃ r, s.outcome = .ok r ∧ r.ok = true ∧
      TrailingNumber.Unreadable (estimateText r)
  | [a, k, s, z, x] => z.Untold ∨
      (∃ r, z.outcome = .ok r ∧ r.ok = true) ∧
        (∃ r, x.outcome = .ok r ∧ r.isGone = false ∧ ¬Writable r.exitStatus) ∨
      ∃ blocks, Ready image blocks [a, k, s, z, x] ∧ Uncuttable image blocks last
  | _ => False

section Verdicts

variable {image : Image} {device : LoopDevice}

theorem blamed_of_tells {e : Failure} {code : ErrorCode} {operation : String}
    (hkind : (code, operation) ∈ failureKinds) (h : e.Tells code operation image.uid) :
    Blamed image e :=
  ⟨_, hkind, h⟩

theorem Blamed.not_outOfStage {e : Failure} (h : Blamed image e) : ¬e.OutOfStage := by
  obtain ⟨_, -, f, hf, -⟩ := h
  exact fun hout => hout f hf

theorem attachVerdict_strays (image : Image) (r : ToolResult) :
    Strays (¬Writable r.exitStatus) (Blamed image)
      (LoopDevice.attachVerdict image.fsPath.text false (some image.uid) r) := by
  unfold LoopDevice.attachVerdict
  split_ifs with hok
  · have htold := not_not_intro (writable_of_ok hok)
    split
    · exact ⟨fun h => absurd h htold, fun _ => fails_error
        (blamed_of_tells (by simp [failureKinds]) ⟨_, rfl, rfl, rfl, rfl, rfl⟩)⟩
    · exact strays_ok htold _
  · exact strays_refusal r fun status =>
      blamed_of_tells (by simp [failureKinds]) ⟨_, rfl, rfl, rfl, rfl, rfl⟩

theorem detachVerdict_strays (image : Image) (device : LoopDevice) (r : ToolResult) :
    Strays (r.isGone = false ∧ ¬Writable r.exitStatus) (Blamed image)
      (LoopDevice.detachVerdict device (some image.uid) r) := by
  unfold LoopDevice.detachVerdict
  split_ifs with hok
  · refine strays_ok (fun ⟨hgone, hlong⟩ => ?_) ()
    rw [hgone, Bool.or_false] at hok
    exact hlong (writable_of_ok hok)
  · have hgone : r.isGone = false := by
      rw [Bool.or_eq_true, not_or, Bool.not_eq_true, Bool.not_eq_true] at hok
      exact hok.2
    exact (strays_refusal r fun status => blamed_of_tells (by simp [failureKinds])
      ⟨_, rfl, rfl, rfl, rfl, rfl⟩).congr (by simp [hgone])

theorem isOrdinary_of_detachVerdict {r : ToolResult} {uid : Option String} {e : Failure}
    (h : LoopDevice.detachVerdict device uid r = .error e) : e.isOrdinary = true := by
  unfold LoopDevice.detachVerdict at h
  split_ifs at h
  obtain rfl := Except.error.inj h
  have hordinary : ∀ status, (LoopDevice.detachFailure device uid r status).isOrdinary = true :=
    fun _ => rfl
  rcases refusal_cases (P := fun e => e.isOrdinary = true) r hordinary with
    ⟨-, hordinary⟩ | ⟨-, hlong⟩
  · exact hordinary
  · rw [hlong]
    rfl

theorem checkVerdict_strays (image : Image) (r : ToolResult) :
    Strays (¬Writable r.exitStatus) (Blamed image) (checkVerdict r) := by
  unfold checkVerdict
  split_ifs with hok
  · refine strays_ok (not_not_intro ?_) ()
    rcases Bool.or_eq_true_iff.1 hok with hok | hcorrected
    · exact writable_of_ok hok
    · have hstatus : r.exitStatus = 1 ∨ r.exitStatus = 2 := by
        simpa [correctedStatuses] using hcorrected
      exact writable_of_lt (by omega)
  · by_cases htold : Writable r.exitStatus
    · rw [decimal_of_writable htold]
      exact strays_ok (not_not_intro htold) ()
    · rw [decimal_of_not_writable htold]
      exact ⟨fun _ => ⟨_, rfl, nofun⟩, fun h => absurd htold h⟩

/-- What cannot be read as a number is of no stage only for having too many digits. -/
theorem read_strays (image : Image) (device : LoopDevice) (text : String) :
    Strays (TrailingNumber.Unreadable text)
      (fun e => Blamed image (e.annotate [("image", image.uid), ("device", device.path)]))
      (TrailingNumber.read text) := by
  have hkind : (ErrorCode.parse, "parse") ∈ failureKinds := by simp [failureKinds]
  by_cases hnumeral : Decimal.IsNumeral (TrailingNumber.lastToken text.toList)
  · rw [TrailingNumber.read_of_isNumeral hnumeral]
    split_ifs with hlength
    · exact strays_ok (fun h => Nat.not_lt_of_le hlength h.2) _
    · have hlong : TrailingNumber.Unreadable text :=
        ⟨List.all_eq_true.2 hnumeral.2, Nat.lt_of_not_le hlength⟩
      exact ⟨fun _ => ⟨_, rfl, nofun⟩, fun h => absurd hlong h⟩
  · obtain ⟨message, hint, shown, hread⟩ := TrailingNumber.unparsed_read hnumeral
    rw [hread]
    refine ⟨fun ⟨hdigits, hlong⟩ => absurd ?_ hnumeral, fun _ => fails_error ?_⟩
    · exact ⟨List.ne_nil_of_length_pos (Nat.zero_lt_of_lt hlong), List.all_eq_true.1 hdigits⟩
    · exact blamed_of_tells hkind ⟨_, rfl, rfl, rfl, rfl, rfl⟩

theorem estimateVerdict_strays (image : Image) (device : LoopDevice) (r : ToolResult) :
    Strays (¬Writable r.exitStatus ∨ r.ok = true ∧ TrailingNumber.Unreadable (estimateText r))
      (Blamed image) (estimateVerdict image device r) := by
  unfold estimateVerdict
  split_ifs with hok
  · have htold := writable_of_ok hok
    have hread := read_strays image device (estimateText r)
    refine Strays.congr (c := TrailingNumber.Unreadable (estimateText r)) ?_ (by simp [htold, hok])
    rcases hnumber : TrailingNumber.read (estimateText r) with e | blocks
    · rw [hnumber] at hread
      dsimp only
      refine ⟨fun h => ?_, fun h => fails_error (hread.fails h e rfl)⟩
      obtain ⟨e', he', hout⟩ := hread.astray h
      obtain rfl := Except.error.inj he'
      refine ⟨_, rfl, ?_⟩
      unfold Failure.annotate
      split
      · exact absurd ‹_› (hout _)
      · exact hout
    · rw [hnumber] at hread
      dsimp only
      rw [decimal_of_writable (writable_of_read hnumber)]
      exact strays_ok (fun h => nomatch (hread.astray h).choose_spec.1) blocks
  · have hstrays : Strays (¬Writable r.exitStatus) (Blamed image)
        (.error (refusal r (estimateFailure image device r)) : Except Failure Nat) :=
      strays_refusal r fun status =>
        blamed_of_tells (by simp [failureKinds]) ⟨_, rfl, rfl, rfl, rfl, rfl⟩
    exact hstrays.congr (by simp [hok])

theorem resizeVerdict_strays (image : Image) (device : LoopDevice) (text : String)
    (r : ToolResult) :
    Strays (¬Writable r.exitStatus) (Blamed image) (resizeVerdict image device text r) := by
  unfold resizeVerdict
  split_ifs with hok
  · exact strays_ok (not_not_intro (writable_of_ok hok)) ()
  · exact strays_refusal r fun status => blamed_of_tells (by simp [failureKinds])
      ⟨_, rfl, rfl, rfl, rfl, rfl⟩

end Verdicts

section Truncate

variable {image : Image} {blocks : Nat} {fs : FileSystem}

/-- The file of an image is refused to be cut, unless that is not foreseen. -/
theorem truncateFile_uncuttable (image : Image) (fs : FileSystem)
    (told : Writable (4096 * blocks : Nat)) :
    (Uncuttable image blocks fs ∧ ∃ e, (truncateFile image (4096 * blocks : Nat) fs).1 = .error e ∧
        e.OutOfStage ∧ e.isRefusal = false) ∨
      ¬Uncuttable image blocks fs ∧
        Fails (fun e => e.isRefusal = true) (truncateFile image (4096 * blocks : Nat) fs).1 := by
  unfold truncateFile
  rw [Action.bind_apply, Action.query_apply]
  by_cases hzero : '\x00' ∈ image.fsPath.text.toList
  · have hopen : fs.openFile image.fsPath true = .error zeroCharacter := by
      unfold FileSystem.openFile
      rw [fs.locate_zero hzero]
      rfl
    rw [hopen]
    exact .inl ⟨.zero hzero, _, rfl, nofun, rfl⟩
  rcases hopen : fs.openFile image.fsPath true with e | opened
  · have hrefusal : e.isRefusal = true :=
      fs.fails_openFile (P := fun e => e.isRefusal = true) (covers_of_notMem (fun _ => id) hzero)
        true e hopen
    refine .inr ⟨fun h => ?_, fails_error hrefusal⟩
    cases h with
    | untold long => exact long told
    | zero named => exact hzero named
    | beyond opens => exact nomatch hopen.symm.trans opens
  dsimp only
  by_cases hbeyond : 2 ^ 63 ≤ 4096 * blocks
  · rw [Action.change_apply_error (fs.resizeFile_beyond opened.1 (.inr (by omega)))]
    exact .inl ⟨.beyond hopen hbeyond, _, rfl, nofun, rfl⟩
  · obtain ⟨fs', hfs'⟩ := fs.exists_resizeFile opened.1 (4096 * blocks : Nat) (by omega)
      (by omega)
    rw [Action.change_apply_ok hfs']
    refine .inr ⟨fun h => ?_, fails_ok ()⟩
    cases h with
    | untold long => exact long told
    | zero named => exact hzero named
    | beyond _ beyond => exact hbeyond beyond

/-- Cutting the file of an image fails in its own step of the stage, unless that is not foreseen. -/
theorem truncate_strays (image : Image) (blocks : Nat) (w : Run σ) :
    Strays (Uncuttable image blocks w.files) (Failure.Tells .resize "truncate" image.uid)
      (truncate image { blocks } w).1 := by
  unfold truncate
  rw [Action.bind_apply, Action.ofExcept_apply, bytes_blocks]
  by_cases htold : Writable (4096 * blocks : Nat)
  · have hcases := truncateFile_uncuttable image w.files htold
    rw [decimal_of_writable htold]
    dsimp only
    rw [Action.bind_apply, Procedure.record_apply]
    dsimp only
    rw [Action.bind_apply, Action.attempt_apply, Procedure.onFiles_apply]
    dsimp only
    generalize (truncateFile image (4096 * blocks : Nat) w.files).1 = o at hcases
    rcases hcases with ⟨hcut, ⟨fault, causes⟩, rfl, hout, hother⟩ | ⟨hcut, hrefusal⟩
    · refine ⟨fun _ => ⟨⟨fault, causes⟩, ?_, hout⟩, fun h => absurd hcut h⟩
      cases fault with
      | refusal r => cases hother
      | _ => rfl
    · refine ⟨fun h => absurd h hcut, fun _ => ?_⟩
      rcases o with ⟨fault, causes⟩ | _
      · cases fault with
        | refusal r => exact fails_error ⟨_, rfl, rfl, rfl, rfl, rfl⟩
        | _ => cases hrefusal _ rfl
      · exact fails_ok ()
  · rw [decimal_of_not_writable htold]
    exact ⟨fun _ => ⟨_, rfl, nofun⟩, fun h => absurd (.untold htold) h⟩

end Truncate

section Course

variable {image : Image} {device : LoopDevice} {events : List Event} {last : FileSystem}
  {a x : Call} {o : Except Failure Nat}

theorem Call.untold_iff {c : Call} {r : ToolResult} (h : c.outcome = .ok r) :
    c.Untold ↔ ¬Writable r.exitStatus := by
  simp [Call.Untold, h]

/-- What is done on a device that is let go of fails in one of the steps, unless that is not
foreseen. -/
theorem ShrinksDevice.strays (h : ShrinksDevice image device events o) (last : FileSystem)
    (answered : AllAnswered events) {rx : ToolResult} (hx : x.outcome = .ok rx)
    (unready : ∀ blocks, ¬Ready image blocks (a :: (called events ++ [x]))) :
    Strays (Escapes image last (a :: (called events ++ [x]))) (Blamed image)
      (firstError o (x.outcome.bind (LoopDevice.detachVerdict device (some image.uid)))) := by
  have hdetach := detachVerdict_strays image device rx
  have hordinary : ∀ e, LoopDevice.detachVerdict device (some image.uid) rx = .error e →
      e.isOrdinary = true := fun _ => isOrdinary_of_detachVerdict
  rw [hx]
  cases h with
  | @unchecked k e check refused =>
    obtain ⟨rk, hk⟩ := answered k (by simp)
    have hcheck := checkVerdict_strays image rk
    rw [hk] at refused
    rw [show checkVerdict rk = .error e from refused] at hcheck
    refine (hcheck.error.firstError hdetach (fun _ => Blamed.not_outOfStage) hordinary).congr ?_
    simp [called, Event.call?, Escapes, Call.untold_iff hk]
  | @unestimated k s e check checked estimate refused =>
    obtain ⟨rs, hs⟩ := answered s (by simp)
    have hestimate := estimateVerdict_strays image device rs
    rw [hs] at refused
    rw [show estimateVerdict image device rs = .error e from refused] at hestimate
    refine (hestimate.firstError hdetach (fun _ => Blamed.not_outOfStage) hordinary).congr ?_
    simp [called, Event.call?, Escapes, Call.untold_iff hs, hs]
  | @resized k s z blocks text check checked estimate estimated written resize =>
    obtain ⟨rz, hz⟩ := answered z (by simp)
    have hresize := resizeVerdict_strays image device text rz
    rw [hz]
    refine ((hresize.map _).firstError hdetach (fun _ => Blamed.not_outOfStage) hordinary).congr ?_
    have hok : (∃ n, (resizeVerdict image device text rz).map (fun _ => blocks) = .ok n) ↔
        rz.ok = true := by
      unfold resizeVerdict
      split_ifs with hok <;> simp [hok, Except.map]
    simp only [called, Event.call?, List.filterMap_cons, List.filterMap_nil, List.cons_append,
      List.nil_append] at unready ⊢
    simp [Escapes, Call.untold_iff hz, hz, hx, unready, hok]

theorem Ready.unique {calls : List Call} {n m : Nat} (h : Ready image n calls)
    (h' : Ready image m calls) : n = m := by
  cases h with
  | intro _ _ estimated =>
    cases h' with
    | intro _ _ estimated' =>
      obtain ⟨-, r, hr, -, hn⟩ := estimated
      obtain ⟨-, r', hr', -, hm⟩ := estimated'
      obtain rfl := Except.ok.inj (hr.symm.trans hr')
      exact Except.ok.inj (hn.symm.trans hm)

/-- Once the tools have done their part, only the cutting of the file may not be foreseen. -/
theorem Ready.escapes_iff {calls : List Call} {blocks : Nat} (h : Ready image blocks calls) :
    Escapes image last calls ↔ Uncuttable image blocks last := by
  have hready := h
  cases h with
  | @intro a k s z x D _ _ _ resized detached =>
    obtain ⟨-, rz, hz, hzok⟩ := resized
    obtain ⟨-, rx, hx, hxok⟩ := detached
    have hztold := writable_of_ok hzok
    have hxtold : rx.isGone = false → Writable rx.exitStatus := by
      intro hgone
      rw [hgone] at hxok
      exact writable_of_ok (hxok.resolve_right Bool.false_ne_true)
    constructor
    · rintro (huntold | ⟨-, r, hr, hgone, hlong⟩ | ⟨n, hn, hcut⟩)
      · exact absurd hztold ((Call.untold_iff hz).1 huntold)
      · obtain rfl := Except.ok.inj (hx.symm.trans hr)
        exact absurd (hxtold hgone) hlong
      · exact hready.unique hn ▸ hcut
    · exact fun hcut => .inr (.inr ⟨blocks, hready, hcut⟩)

/-- A failure to shrink an image is blamed on a step, and on the cutting of its file once the tools
have done their part. -/
def BlamedIn (image : Image) (calls : List Call) (e : Failure) : Prop :=
  Blamed image e ∧ ∀ blocks, Ready image blocks calls → e.Tells .resize "truncate" image.uid

theorem Shrinks.strays {o : Except Failure MinimumSize} {fs fs' : FileSystem}
    (h : Shrinks image events o fs') (answered : AllAnswered events)
    (hcalls : HandsOn fs (called events) last) :
    Strays (Escapes image last (called events)) (BlamedIn image (called events)) o := by
  cases h with
  | @unattached a e attach refused =>
    obtain ⟨r, hr⟩ := answered a (by simp)
    have hattach := attachVerdict_strays image r
    rw [hr] at refused
    rw [show LoopDevice.attachVerdict image.fsPath.text false (some image.uid) r = .error e from
      refused] at hattach
    have hescaped := hattach.escaped fun _ => Blamed.not_outOfStage
    refine (hescaped.error.congr ?_).mono fun e _ hblamed =>
      ⟨hblamed, fun _ hready => nomatch hready⟩
    simp [called, Event.call?, Escapes, Call.untold_iff hr]
  | @unshrunk a x device inside o e attach attached shrinks release refused =>
    have hanswered : AllAnswered inside := fun c hc => answered c (by simp [hc])
    obtain ⟨rx, hx⟩ := answered x (by simp)
    rw [called_attached]
    have unready : ∀ blocks, ¬Ready image blocks (a :: (called inside ++ [x])) := by
      intro blocks hready
      cases refused.symm.trans (hready.released shrinks)
    have hstrays := shrinks.strays last hanswered hx unready
    rw [refused] at hstrays
    exact hstrays.error.mono fun e _ hblamed =>
      ⟨hblamed, fun blocks hready => absurd hready (unready blocks)⟩
  | @shrunk σ w a x device inside o blocks attach attached shrinks release released files =>
    rw [called_attached] at hcalls ⊢
    -- the tools have done their part, so that only the cutting of the file is left to fail
    have hready := ready_of_released attach attached shrinks release released
    obtain rfl : last = w.files := by
      rw [files, hcalls.eq_getLast, ← List.cons_append, List.getLast?_concat]
      rfl
    exact (((truncate_strays image blocks w).map _).congr hready.escapes_iff).mono fun e _ htells =>
      ⟨blamed_of_tells (by simp [failureKinds]) htells, fun n _ => htells⟩

end Course

/-- An image that is not shrunk is not for a reason that names the step and the image, unless for
what the stage does not foresee. -/
theorem shrink_blamed_iff (runner : Runner σ) (answers : runner.Answers) (image : Image)
    (w : Run σ) :
    ∃ events last, (shrink runner image w).2.history = w.history ++ events ∧
      HandsOn w.files (called events) last ∧
      (Fails (BlamedIn image (called events)) (shrink runner image w).1 ↔
        ¬Escapes image last (called events)) := by
  obtain ⟨events, hevents, hshrinks⟩ := adds_shrinks runner image w
  obtain ⟨events', hevents', last, hcalls⟩ := adds_handsOn runner image w
  obtain rfl : events' = events := List.append_cancel_left (hevents'.symm.trans hevents)
  have hanswered := allAnswered_of_keeps
    (shrink_keeps (carried_allAnswered answers) image (by decide)) hevents
  exact ⟨events', last, hevents, hcalls, (hshrinks.strays hanswered hcalls).fails_iff
    fun e hblamed => hblamed.1.not_outOfStage⟩

/-- A runner whose calls all succeed, by whose estimate an image needs more octets than a file can
have. -/
def vastRunner : Runner Unit where
  run argv _ s :=
    (⟨.ok { argv, exitStatus := 0, stdout := answerOf argv }, none⟩, s)
  ensureAvailable _ _ := .ok ()
where
  /-- What the tools write that are asked something. -/
  answerOf : List String → String
    | "losetup" :: "--find" :: _ => "/dev/loop0\n"
    | ["resize2fs", "-P", _] => "Estimated minimum size of the filesystem: 2251799813685248\n"
    | _ => ""

theorem shrink_blamed_vastRunner :
    let w : Run Unit := { files := imageHost, runner := () }
    let image := Provisioning.largeImage
    let shrunk := shrink vastRunner image w
    vastRunner.Answers ∧
      (∃ events last, shrunk.2.history = w.history ++ events ∧
        HandsOn w.files (called events) last ∧
        (Fails (BlamedIn image (called events)) shrunk.1 ↔
          ¬Escapes image last (called events))) ∧
      shrunk.1 = .error FileSystem.overflow ∧
      (shrink Provisioning.workingRunner image w).1 = .ok { blocks := 25600 } := by
  have answers : vastRunner.Answers := fun argv _ _ => ⟨_, rfl⟩
  exact ⟨answers, shrink_blamed_iff _ answers _ _, by decide +kernel, by decide +kernel⟩

end Shrinking

end GuestImage
