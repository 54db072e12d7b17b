import GuestImage.Proofs.Mounting

/-!
# The course of a run

A run goes through its stages one after the other, and each of them adds its events to the history
(`adds_stages`): the file of the image is made and formatted (`Builds`), the image is populated
(`Populates`), and it is shrunk through a device (`Shrinks`). The first step that fails is the last
one, but for the releases of what is held.
-/

namespace GuestImage

variable {σ : Type}

namespace Allocation

/-- What making and formatting the file of an image comes to. -/
inductive Builds (image : Image) (size : Int) (fs : FileSystem) :
    List Event → Except Failure Path → FileSystem → Prop
  | unallocated {σ : Type} {w : Run σ} {e : Failure} (files : w.files = fs)
      (refused : (allocate image size w).1 = .error e) :
    Builds image size fs [] (.error e) (allocate image size w).2.files
  | formatted {f : Call} (allocated : (allocateFile image size fs).1 = .ok ())
      (argv : f.argv = formatArgv image.fsPath.text)
      (before : f.before = (allocateFile image size fs).2) :
    Builds image size fs [.called f] (f.outcome.bind (formatVerdict image)) f.after

theorem adds_builds (runner : Runner σ) (image : Image) (size : Int) :
    Adds (build runner image size) (Builds image size) := by
  refine .after_logs (logs_record _) ?_
  have hallocate : Adds (allocate (σ := σ) image size) fun fs events o fs' => events = [] ∧
      fs' = (allocateFile image size fs).2 ∧
      (o = .ok () → (allocateFile image size fs).1 = .ok ()) ∧
      ∀ e, o = .error e → ∃ w : Run σ, w.files = fs ∧ (allocate image size w).1 = .error e ∧
        (allocate image size w).2.files = fs' := by
    intro w
    have hstep := allocate_step (σ := σ) image size
    exact ⟨[], (hstep.history w).trans (List.append_nil _).symm, rfl, hstep.files w,
      (hstep.ok w ()).1, fun e he => ⟨w, rfl, he, rfl⟩⟩
  refine Adds.mono (Adds.bind hallocate fun _ => (consults_of_logs runner
    (formatArgv image.fsPath.text) none (formatVerdict image) fun r => ?_).adds) ?_
  · unfold formatVerdict
    split
    · exact logs_pure _
    · exact logs_record_bind (logs_refusal r _)
  rintro fs events o fs' (⟨e, ⟨rfl, -, -, herror⟩, rfl⟩ |
    ⟨_, mid, before, after, rfl, ⟨rfl, rfl, hok, -⟩, f, rfl, hargv, hbefore, rfl, rfl⟩)
  · obtain ⟨w, hw, hrefused, hfiles⟩ := herror e rfl
    rw [← hfiles]
    exact .unallocated hw hrefused
  · exact .formatted (hok rfl) hargv hbefore

/-- A call formats the file of an image, which was made before it. -/
structure Formats (image : Image) (size : Int) (fs : FileSystem) (f : Call) : Prop where
  allocated : (allocateFile image size fs).1 = .ok ()
  argv : f.argv = formatArgv image.fsPath.text
  before : f.before = (allocateFile image size fs).2

theorem Builds.of_ok {image : Image} {size : Int} {fs fs' : FileSystem} {events : List Event}
    {path : Path} (h : Builds image size fs events (.ok path) fs') :
    ∃ f : Call, events = [.called f] ∧ Formats image size fs f ∧
      f.outcome.bind (formatVerdict image) = .ok path ∧ fs' = f.after := by
  obtain ⟨o, ho⟩ : ∃ o : Except Failure Path, o = .ok path := ⟨_, rfl⟩
  rw [← ho] at h
  cases h with
  | unallocated => cases ho
  | @formatted f allocated argv before => exact ⟨f, rfl, ⟨allocated, argv, before⟩, ho, rfl⟩

theorem Builds.of_error {image : Image} {size : Int} {fs fs' : FileSystem} {events : List Event}
    {e : Failure} (h : Builds image size fs events (.error e) fs') :
    (events = [] ∧ ∃ (σ : Type) (w : Run σ), w.files = fs ∧ (allocate image size w).1 = .error e) ∨
      ∃ f : Call, events = [.called f] ∧ Formats image size fs f ∧
        f.outcome.bind (formatVerdict image) = .error e := by
  obtain ⟨o, ho⟩ : ∃ o : Except Failure Path, o = .error e := ⟨_, rfl⟩
  rw [← ho] at h
  cases h with
  | @unallocated σ w e' files refused =>
    obtain rfl := Except.error.inj ho
    exact .inl ⟨rfl, σ, w, files, refused⟩
  | @formatted f allocated argv before => exact .inr ⟨f, rfl, ⟨allocated, argv, before⟩, ho⟩

end Allocation

namespace Shrinking

/-- What shrinking the file system on a device comes to. -/
inductive ShrinksDevice (image : Image) (device : LoopDevice) :
    List Event → Except Failure Nat → Prop
  | unchecked {k : Call} {e : Failure} (check : k.argv = ["e2fsck", "-p", "-f", device.path])
      (refused : k.outcome.bind checkVerdict = .error e) :
    ShrinksDevice image device [.called k] (.error e)
  | unestimated {k s : Call} {e : Failure} (check : k.argv = ["e2fsck", "-p", "-f", device.path])
      (checked : k.outcome.bind checkVerdict = .ok ())
      (estimate : s.argv = ["resize2fs", "-P", device.path])
      (refused : s.outcome.bind (estimateVerdict image device) = .error e) :
    ShrinksDevice image device [.called k, .called s] (.error e)
  | resized {k s z : Call} {blocks : Nat} {text : String}
      (check : k.argv = ["e2fsck", "-p", "-f", device.path])
      (checked : k.outcome.bind checkVerdict = .ok ())
      (estimate : s.argv = ["resize2fs", "-P", device.path])
      (estimated : s.outcome.bind (estimateVerdict image device) = .ok blocks)
      (written : decimal blocks = .ok text) (resize : z.argv = ["resize2fs", device.path, text]) :
    ShrinksDevice image device [.called k, .called s, .called z]
      ((z.outcome.bind (resizeVerdict image device text)).map fun _ => blocks)

theorem exists_decimal_of_estimateVerdict {image : Image} {device : LoopDevice} {r : ToolResult}
    {blocks : Nat} (h : estimateVerdict image device r = .ok blocks) :
    ∃ text, decimal blocks = .ok text := by
  unfold estimateVerdict at h
  split at h
  · split at h
    · cases h
    · rename_i n _
      rcases hdecimal : decimal n with e | text
      · rw [hdecimal] at h
        cases h
      · rw [hdecimal] at h
        cases h
        exact ⟨text, hdecimal⟩
  · cases h

theorem adds_resizes (runner : Runner σ) (image : Image) (device : LoopDevice) (blocks : Nat) :
    Adds (resize runner image device blocks) fun _ events o _ =>
      (∃ e, decimal blocks = .error e) ∨
        ∃ text z, decimal blocks = .ok text ∧ events = [.called z] ∧
          z.argv = ["resize2fs", device.path, text] ∧
          o = z.outcome.bind (resizeVerdict image device text) := by
  rcases hdecimal : decimal blocks with e | text
  · intro w
    have hlogs : Logs (resize runner image device blocks) (.error e) [] := by
      refine Logs.bind_error ?_
      rw [hdecimal]
      exact logs_ofExcept _
    exact ⟨[], (hlogs w).2.2, .inl ⟨e, rfl⟩⟩
  · refine (resize_consults runner image device hdecimal).adds.mono ?_
    rintro _ _ _ _ ⟨z, rfl, hargv, -, -, rfl⟩
    exact .inr ⟨text, z, rfl, rfl, hargv, rfl⟩

theorem adds_shrinksDevice (runner : Runner σ) (image : Image) (device : LoopDevice) :
    Adds (shrinkDevice runner image device)
      fun _ events o _ => ShrinksDevice image device events o := by
  refine Adds.mono (Adds.bind (check_consults runner image device).adds fun _ =>
    Adds.bind (estimate_consults runner image device).adds fun blocks =>
    (adds_resizes runner image device blocks).before_logs fun _ => logs_pure blocks) ?_
  rintro _ _ _ _ (⟨e, ⟨k, rfl, hcheck, -, -, hrefused⟩, rfl⟩ |
    ⟨_, _, _, _, rfl, ⟨k, rfl, hcheck, -, -, hchecked⟩, hrest⟩)
  · exact .unchecked hcheck hrefused.symm
  rcases hrest with ⟨e, ⟨s, rfl, hestimate, -, -, hrefused⟩, rfl⟩ |
    ⟨blocks, _, _, _, rfl, ⟨s, rfl, hestimate, -, -, hestimated⟩, o, hresize, rfl⟩
  · exact .unestimated hcheck hchecked.symm hestimate hrefused.symm
  obtain ⟨r, -, hverdict⟩ := bind_eq_ok.1 hestimated.symm
  obtain ⟨text, htext⟩ := exists_decimal_of_estimateVerdict hverdict
  rcases hresize with ⟨e, herror⟩ | ⟨text, z, hwritten, rfl, hargv, rfl⟩
  · rw [htext] at herror
    cases herror
  · exact .resized hcheck hchecked.symm hestimate hestimated.symm hwritten hargv

theorem ShrinksDevice.of_ok {image : Image} {device : LoopDevice} {events : List Event}
    {blocks : Nat} (h : ShrinksDevice image device events (.ok blocks)) :
    ∃ k s z text answer, events = [.called k, .called s, .called z] ∧
      s.argv = ["resize2fs", "-P", device.path] ∧ s.outcome = .ok answer ∧
      estimateVerdict image device answer = .ok blocks ∧ decimal blocks = .ok text ∧
      z.argv = ["resize2fs", device.path, text] := by
  obtain ⟨o, ho⟩ : ∃ o : Except Failure Nat, o = .ok blocks := ⟨_, rfl⟩
  rw [← ho] at h
  cases h with
  | unchecked => cases ho
  | unestimated => cases ho
  | @resized k s z n text _ _ estimate estimated written resize =>
    obtain ⟨answer, hanswer, hverdict⟩ := bind_eq_ok.1 estimated
    have hn : n = blocks := by
      generalize z.outcome.bind (resizeVerdict image device text) = v at ho
      cases v with
      | error => cases ho
      | ok => exact Except.ok.inj ho
    subst hn
    exact ⟨k, s, z, text, answer, rfl, estimate, hanswer, hverdict, written, resize⟩

/-- What shrinking an image comes to. -/
inductive Shrinks (image : Image) :
    List Event → Except Failure MinimumSize → FileSystem → Prop
  | unattached {a : Call} {e : Failure}
      (attach : a.argv = LoopDevice.attachArgv image.fsPath.text false)
      (refused : a.outcome.bind
        (LoopDevice.attachVerdict image.fsPath.text false (some image.uid)) = .error e) :
    Shrinks image [.called a] (.error e.escaped) a.after
  | unshrunk {a x : Call} {device : LoopDevice} {events : List Event} {o : Except Failure Nat}
      {e : Failure} (attach : a.argv = LoopDevice.attachArgv image.fsPath.text false)
      (attached : a.outcome.bind
        (LoopDevice.attachVerdict image.fsPath.text false (some image.uid)) = .ok device)
      (shrinks : ShrinksDevice image device events o)
      (release : x.argv = ["losetup", "--detach", device.path])
      (refused : firstError o
        (x.outcome.bind (LoopDevice.detachVerdict device (some image.uid))) = .error e) :
    Shrinks image (.called a :: .deviceAttached device.path :: (events ++ [.called x])) (.error e)
      x.after
  | shrunk {σ : Type} {w : Run σ} {a x : Call} {device : LoopDevice} {events : List Event}
      {o : Except Failure Nat} {blocks : Nat}
      (attach : a.argv = LoopDevice.attachArgv image.fsPath.text false)
      (attached : a.outcome.bind
        (LoopDevice.attachVerdict image.fsPath.text false (some image.uid)) = .ok device)
      (shrinks : ShrinksDevice image device events o)
      (release : x.argv = ["losetup", "--detach", device.path])
      (released : firstError o
        (x.outcome.bind (LoopDevice.detachVerdict device (some image.uid))) = .ok blocks)
      (files : w.files = x.after) :
    Shrinks image (.called a :: .deviceAttached device.path :: (events ++ [.called x]))
      ((truncate image { blocks } w).1.map fun () => { blocks })
      (truncate image { blocks } w).2.files

theorem adds_attaches (runner : Runner σ) (path : String) (image : Option String) :
    Adds (Action.mapFailure .escaped (LoopDevice.attach runner path false image))
      fun _ events o fs' => ∃ a : Call, a.argv = LoopDevice.attachArgv path false ∧
        fs' = a.after ∧
        o = (a.outcome.bind (LoopDevice.attachVerdict path false image)).mapError .escaped ∧
        events = .called a :: match o with
          | .ok device => [.deviceAttached device.path]
          | .error _ => [] := by
  intro w
  obtain ⟨a, ha, ho⟩ := LoopDevice.attach_call runner path false image w
  rw [Action.mapFailure_apply, ho]
  refine ⟨_, ha.history, a, ha.argv, ha.after, rfl, ?_⟩
  rcases a.outcome with e | r
  · rfl
  dsimp only [Except.bind]
  unfold LoopDevice.attachVerdict
  by_cases hok : r.ok = true
  · rw [if_pos hok, if_pos hok]
    rcases LoopDevice.reported? r.stdout with _ | device
    · rfl
    · rfl
  · rw [if_neg hok, if_neg hok]
    rfl

theorem adds_shrinks (runner : Runner σ) (image : Image) :
    Adds (shrink runner image) fun _ events o fs' => Shrinks image events o fs' := by
  have htruncate : ∀ minimum : MinimumSize, Adds (truncate (σ := σ) image minimum)
      fun fs events o fs' => events = [] ∧ ∃ w : Run σ, w.files = fs ∧
        o = (truncate image minimum w).1 ∧ fs' = (truncate image minimum w).2.files := by
    intro minimum w
    exact ⟨[], (truncate_history image minimum w).trans (List.append_nil _).symm, rfl, w, rfl, rfl,
      rfl⟩
  refine Adds.mono (Adds.bind
    (Adds.bind (adds_attaches runner image.fsPath.text (some image.uid)) fun device =>
      Adds.releaseAfter (adds_shrinksDevice runner image device)
        (LoopDevice.detach_consults runner (some image.uid) device).adds fun _ => logs_record _)
    fun blocks => (htruncate { blocks }).before_logs fun _ =>
      logs_pure ({ blocks } : MinimumSize)) ?_
  rintro _ _ _ _ (⟨e, hdevice, rfl⟩ |
    ⟨blocks, _, _, _, rfl, hdevice, _, ⟨rfl, w, hfiles, rfl, rfl⟩, rfl⟩)
  · rcases hdevice with ⟨e, ⟨a, hattach, rfl, hrefused, rfl⟩, he⟩ |
      ⟨device, _, _, _, rfl, ⟨a, hattach, rfl, hattached, rfl⟩, events, _, o, released, _, rfl,
        hshrinks, ⟨x, rfl, hrelease, -, rfl, rfl⟩, hfailed⟩
    · cases he
      obtain ⟨e, hverdict, rfl⟩ := mapError_eq_error.1 hrefused.symm
      exact .unattached hattach hverdict
    · have hattached := mapError_eq_ok.1 hattached.symm
      exact Shrinks.unshrunk hattach hattached hshrinks hrelease hfailed.symm
  · rcases hdevice with ⟨e, -, he⟩ |
      ⟨device, _, _, _, rfl, ⟨a, hattach, rfl, hattached, rfl⟩, events, _, o, released, _, rfl,
        hshrinks, ⟨x, rfl, hrelease, -, rfl, rfl⟩, hreleased⟩
    · cases he
    · rw [List.append_nil]
      have hattached := mapError_eq_ok.1 hattached.symm
      exact .shrunk hattach hattached hshrinks hrelease hreleased.symm hfiles

/-- An image that was shrunk was cut to the size its device was shrunk to. -/
theorem Shrinks.of_ok {image : Image} {events : List Event} {minimum : MinimumSize}
    {fs' : FileSystem} (h : Shrinks image events (.ok minimum) fs') :
    ∃ (a x : Call) (device : LoopDevice) (inside : List Event) (blocks : Nat),
      events = .called a :: .deviceAttached device.path :: (inside ++ [.called x]) ∧
      ShrinksDevice image device inside (.ok blocks) ∧ minimum = { blocks } ∧
      (truncateFile image minimum.bytes x.after).1 = .ok () ∧
      fs' = (truncateFile image minimum.bytes x.after).2 := by
  obtain ⟨o, ho⟩ : ∃ o : Except Failure MinimumSize, o = .ok minimum := ⟨_, rfl⟩
  rw [← ho] at h
  cases h with
  | unattached => cases ho
  | unshrunk => cases ho
  | @shrunk σ w a x device inside o blocks attach attached shrinks release released files =>
    obtain ⟨rfl, -⟩ := firstError_eq_ok.1 released
    rcases htruncate : (truncate image { blocks } w).1 with e | _
    · rw [htruncate] at ho
      cases ho
    rw [htruncate] at ho
    obtain rfl : { blocks } = minimum := Except.ok.inj ho
    refine ⟨a, x, device, inside, blocks, rfl, shrinks, rfl, ?_⟩
    rcases hdecimal : decimal ({ blocks } : MinimumSize).bytes with e | text
    · have hlogs : Logs (σ := σ) (truncate image { blocks }) (.error e) [] := by
        refine Logs.bind_error ?_
        rw [hdecimal]
        exact logs_ofExcept _
      rw [(hlogs w).1] at htruncate
      cases htruncate
    · have hstep := truncate_step (σ := σ) image hdecimal
      rw [← files]
      exact ⟨(hstep.ok w ()).1 htruncate, hstep.files w⟩

end Shrinking

namespace Provisioning

/-- What the four stages come to. -/
inductive Stages (settings : Settings) (unpacker : Unpacker) (image : Image) (source : Source)
    (dir : Path) (fs : FileSystem) : List Event → Except Failure Report → FileSystem → Prop
  | unbuilt {events : List Event} {e : Failure} {fs' : FileSystem}
      (builds : Allocation.Builds image ((SizePolicy.ofSettings settings).planned image.size) fs
        events (.error e) fs') :
    Stages settings unpacker image source dir fs events (.error e) fs'
  | unpopulated {built events : List Event} {path : Path} {e : Failure} {mid fs' : FileSystem}
      (builds : Allocation.Builds image ((SizePolicy.ofSettings settings).planned image.size) fs
        built (.ok path) mid)
      (populates : Population.Populates unpacker dir image source mid events (.error e)) :
    Stages settings unpacker image source dir fs (built ++ events) (.error e) fs'
  | shrunk {built populated events : List Event} {path : Path} {linked : Bool}
      {o : Except Failure MinimumSize} {mid fs' : FileSystem}
      (builds : Allocation.Builds image ((SizePolicy.ofSettings settings).planned image.size) fs
        built (.ok path) mid)
      (populates : Population.Populates unpacker dir image source mid populated (.ok linked))
      (shrinks : Shrinking.Shrinks image events o fs') :
    Stages settings unpacker image source dir fs (built ++ (populated ++ events))
      (o.map fun minimum =>
        ⟨image.uid, image.fsPath, (SizePolicy.ofSettings settings).planned image.size, minimum,
          linked, 1⟩) fs'

/-- A run whose stages all ended well reports what they came to. -/
theorem Stages.of_ok {settings : Settings} {unpacker : Unpacker} {image : Image} {source : Source}
    {dir : Path} {fs fs' : FileSystem} {events : List Event} {report : Report}
    (h : Stages settings unpacker image source dir fs events (.ok report) fs') :
    ∃ (built rest shrunk : List Event) (path : Path) (mid : FileSystem) (minimum : MinimumSize)
        (linked : Bool),
      events = built ++ (rest ++ shrunk) ∧
      Allocation.Builds image ((SizePolicy.ofSettings settings).planned image.size) fs built
        (.ok path) mid ∧
      Shrinking.Shrinks image shrunk (.ok minimum) fs' ∧
      report = ⟨image.uid, image.fsPath, (SizePolicy.ofSettings settings).planned image.size,
        minimum, linked, 1⟩ := by
  obtain ⟨o, ho⟩ : ∃ o : Except Failure Report, o = .ok report := ⟨_, rfl⟩
  rw [← ho] at h
  cases h with
  | unbuilt => cases ho
  | unpopulated => cases ho
  | @shrunk built populated shrunk path linked o mid _ builds populates shrinks =>
    cases o with
    | error => cases ho
    | ok minimum =>
      exact ⟨built, populated, shrunk, path, mid, minimum, linked, rfl, builds, shrinks,
        (Except.ok.inj ho).symm⟩

theorem adds_stage {α : Type} {P : FileSystem → List Event → Except Failure α → FileSystem → Prop}
    (image : Image) (name : String) {body : Procedure σ α} (h : Adds body P) :
    Adds (stage image name body) P := by
  refine .after_logs (logs_record _) ?_
  refine (h.before_logs fun result => logs_record_bind (logs_pure result)).mono ?_
  rintro fs events _ fs' ⟨o, hp, rfl⟩
  cases o with
  | error => exact hp
  | ok => exact hp

theorem inRange_iff {gb : Int} : Settings.inRange gb = true ↔ 1 ≤ gb ∧ gb ≤ 100 := by
  rw [Settings.inRange, Bool.and_eq_true, decide_eq_true_eq, decide_eq_true_eq]
  rfl

theorem floorGbOf_mem (settings : Settings) :
    1 ≤ SizePolicy.floorGbOf settings ∧ SizePolicy.floorGbOf settings ≤ 100 := by
  unfold SizePolicy.floorGbOf
  rcases settings.minBaseSizeGb with _ | gb
  · exact ⟨by decide, by decide⟩
  · rw [Option.filter_some]
    split
    · rename_i hrange
      exact inRange_iff.1 hrange
    · exact ⟨by decide, by decide⟩

theorem floorGb_ofSettings (settings : Settings) :
    (SizePolicy.ofSettings settings).floorGb = SizePolicy.floorGbOf settings := by
  unfold SizePolicy.floorGb SizePolicy.ofSettings
  exact Int.mul_fdiv_cancel _ (by decide)

theorem logs_planSize (settings : Settings) (nominal : Int) (image : Option String) :
    Logs (planSize (σ := σ) (.ofSettings settings) nominal image)
      (.ok ((SizePolicy.ofSettings settings).planned nominal)) [] := by
  obtain ⟨text, htext⟩ :
      ∃ text, decimal (SizePolicy.ofSettings settings).floorGb = .ok text := by
    have hshort : ∀ n ≤ 100, (Decimal.digits n).length ≤ Decimal.maxDigits := by decide
    obtain ⟨hlow, hhigh⟩ := floorGbOf_mem settings
    rw [floorGb_ofSettings]
    unfold decimal Decimal.text?
    rw [if_pos (hshort _ (by omega))]
    exact ⟨_, rfl⟩
  have hdecimal : Logs (σ := σ)
      (Action.ofExcept (decimal (SizePolicy.ofSettings settings).floorGb)) (.ok text) [] := by
    rw [htext]
    exact logs_ofExcept _
  exact hdecimal.bind (logs_record_bind (logs_pure _))

theorem adds_stages (runner : Runner σ) (settings : Settings) (unpacker : Unpacker)
    (image : Image) (source : Source) (dir : Path) :
    Adds (stages runner settings unpacker image source dir)
      (Stages settings unpacker image source dir) := by
  have hplan : Logs (σ := σ) (stage image "plan"
      (planSize (.ofSettings settings) image.size (some image.uid)))
      (.ok ((SizePolicy.ofSettings settings).planned image.size)) [] :=
    logs_record_bind ((logs_planSize settings image.size (some image.uid)).bind
      (logs_record_bind (logs_pure _)))
  refine .after_logs hplan (Adds.mono
    (Adds.bind (adds_stage image "format" (Allocation.adds_builds runner image _)) fun _ =>
      Adds.bind (adds_stage image "populate" (Population.adds_populates runner unpacker dir image
        source)) fun linked =>
      (adds_stage image "shrink" (Shrinking.adds_shrinks runner image)).before_logs
        fun minimum => logs_pure _) ?_)
  rintro fs _ _ fs' (⟨e, hbuilds, rfl⟩ | ⟨path, mid, built, _, rfl, hbuilds, hrest⟩)
  · exact .unbuilt hbuilds
  rcases hrest with ⟨e, hpopulates, rfl⟩ |
    ⟨linked, _, populated, _, rfl, hpopulates, o, hshrinks, rfl⟩
  · exact .unpopulated hbuilds hpopulates
  · exact .shrunk hbuilds hpopulates hshrinks

/-- What the check of the tools adds to the history. -/
def checkedEvents (unpacker : Option Unpacker) (preflight : Bool) : List Event :=
  if preflight then [.checked (toolsFor unpacker)] else []

/-- A failure that is reported as it is, but for the stage that it may be made to name. -/
def Named (e e' : Failure) : Prop :=
  e' = e ∨ ∃ stage, e' = e.annotate [("stage", stage)]

/-- What provisioning an image comes to. A failure of a stage may be made to name the stage. -/
inductive Provisions (runner : Runner σ) (settings : Settings) (unpacker : Option Unpacker)
    (preflight : Bool) (image : Image) (source : Source) (dir : Path) (fs : FileSystem) :
    List Event → Except Failure Report → FileSystem → Prop
  | unready {s : σ} {e : Failure} (checks : preflight = true)
      (refused : runner.ensureAvailable (toolsFor unpacker) s = .error e) :
    Provisions runner settings unpacker preflight image source dir fs
      (checkedEvents unpacker preflight) (.error e) fs
  | failed {events : List Event} {e e' : Failure} {fs' : FileSystem}
      (stages : Stages settings (unpacker.getD (.tar [])) image source dir fs events (.error e)
        fs')
      (named : Named e e') :
    Provisions runner settings unpacker preflight image source dir fs
      (checkedEvents unpacker preflight ++ events) (.error e') fs'
  | provisioned {events : List Event} {report : Report} {fs' : FileSystem}
      (stages : Stages settings (unpacker.getD (.tar [])) image source dir fs events (.ok report)
        fs') :
    Provisions runner settings unpacker preflight image source dir fs
      (checkedEvents unpacker preflight ++ events) (.ok report) fs'

theorem throw_recordFailure_eq (image : Image) (f : StageFault) (e : Failure) (w : Run σ) :
    (∃ e', Named e e' ∧
        ((do throw (← recordFailure image f e) : Procedure σ Report) w).1 = .error e') ∧
      ((do throw (← recordFailure image f e) : Procedure σ Report) w).2.files = w.files ∧
      ((do throw (← recordFailure image f e) : Procedure σ Report) w).2.history = w.history := by
  unfold recordFailure
  simp only [Action.bind_apply, Action.get_apply, Procedure.record_apply]
  rcases w.log.currentStage (some image.uid) with _ | stage
  · exact ⟨⟨e, .inl rfl, rfl⟩, rfl, rfl⟩
  · exact ⟨⟨_, .inr ⟨stage, rfl⟩, rfl⟩, rfl, rfl⟩

/-- How the outcome of the stages is reported. -/
def Reports (o o' : Except Failure Report) : Prop :=
  (∃ e e', o = .error e ∧ o' = .error e' ∧ Named e e') ∨ ∃ report, o = .ok report ∧ o' = .ok report

theorem adds_provisions (runner : Runner σ) (settings : Settings) (unpacker : Option Unpacker)
    (preflight : Bool) (image : Image) (source : Source) (dir : Path) :
    Adds (provision runner settings unpacker preflight image source dir)
      (Provisions runner settings unpacker preflight image source dir) := by
  have hcheck : Adds (Procedure.ensureAvailable runner (toolsFor unpacker))
      fun fs events o fs' => events = [.checked (toolsFor unpacker)] ∧ fs' = fs ∧
        ∃ s, o = runner.ensureAvailable (toolsFor unpacker) s :=
    fun w => ⟨_, rfl, rfl, rfl, _, rfl⟩
  have hstages := adds_stages runner settings (unpacker.getD (.tar [])) image source dir
  have hfail : ∀ f e (w : Run σ),
      Reports (.error e) ((do throw (← recordFailure image f e) : Procedure σ Report) w).1 ∧
        ((do throw (← recordFailure image f e) : Procedure σ Report) w).2.files = w.files ∧
        ((do throw (← recordFailure image f e) : Procedure σ Report) w).2.history = w.history := by
    intro f e w
    obtain ⟨⟨e', hnamed, ho⟩, hfiles, hhistory⟩ := throw_recordFailure_eq image f e w
    exact ⟨.inl ⟨e, e', rfl, ho, hnamed⟩, hfiles, hhistory⟩
  cases preflight with
  | false =>
    refine Adds.mono (Adds.attempt_bind (R := Reports) hstages ?_) ?_
    · rintro (⟨fault, causes⟩ | report) w
      · cases fault with
        | stage f => exact hfail f _ w
        | _ => exact ⟨.inl ⟨_, _, rfl, rfl, .inl rfl⟩, rfl, rfl⟩
      · exact ⟨.inr ⟨report, rfl, rfl⟩, rfl, rfl⟩
    · rintro fs events o' fs' ⟨o, hs, ⟨e, e', rfl, rfl, hnamed⟩ | ⟨report, rfl, rfl⟩⟩
      · exact .failed hs hnamed
      · exact .provisioned hs
  | true =>
    refine Adds.mono (Adds.bind hcheck fun _ => Adds.attempt_bind (R := Reports) hstages ?_) ?_
    · rintro (⟨fault, causes⟩ | report) w
      · cases fault with
        | stage f => exact hfail f _ w
        | _ => exact ⟨.inl ⟨_, _, rfl, rfl, .inl rfl⟩, rfl, rfl⟩
      · exact ⟨.inr ⟨report, rfl, rfl⟩, rfl, rfl⟩
    · rintro fs _ o' fs' (⟨e, ⟨rfl, rfl, s, hrefused⟩, rfl⟩ |
        ⟨_, _, _, events, rfl, ⟨rfl, rfl, s, -⟩, o, hs,
          ⟨e, e', rfl, rfl, hnamed⟩ | ⟨report, rfl, rfl⟩⟩)
      · exact .unready rfl hrefused.symm
      · exact .failed hs hnamed
      · exact .provisioned hs

end Provisioning

end GuestImage
