import GuestImage.Proofs.Hindering
import GuestImage.Proofs.Moves
import GuestImage.Proofs.Sizes
import GuestImage.Proofs.Tokens
import Mathlib.Algebra.Group.Int.Defs
import Mathlib.Algebra.Group.Nat.Defs

/-!
# Cutting the file of an image

Shrinking an image leaves the files to its tools: each call finds them as the call before it left
them (`HandsOn`). The one exception is the end, where the file of the image is cut, and it comes to
that only after every tool has done its part and the device is let go of (`Ready`). Then the image
is shrunk, unless the cutting itself fails; otherwise the error is raised and the files are as the
last call left them (`shrink_cuts`). Tools that answer as they have to do their part (`Served`).
-/

namespace GuestImage

variable {σ α β : Type}

/-- The calls of a run found the files as the call before them left them, and so does what comes
after the last one. -/
inductive HandsOn : FileSystem → List Call → FileSystem → Prop
  | nil {fs : FileSystem} : HandsOn fs [] fs
  | cons {c : Call} {calls : List Call} {fs' : FileSystem} (rest : HandsOn c.after calls fs') :
    HandsOn c.before (c :: calls) fs'

/-- Steps that change no files but by their calls. -/
def Quiet (act : Procedure σ α) : Prop :=
  Adds act fun fs events _ fs' => HandsOn fs (called events) fs'

/-- A call was made with some arguments, and answered in some way. -/
def Call.Yields (c : Call) (argv : List String) (P : ToolResult → Prop) : Prop :=
  c.argv = argv ∧ ∃ r, c.outcome = .ok r ∧ P r

section Quiet

theorem HandsOn.append {fs mid fs' : FileSystem} {calls more : List Call}
    (h : HandsOn fs calls mid) (hmore : HandsOn mid more fs') : HandsOn fs (calls ++ more) fs' := by
  induction h with
  | nil => exact hmore
  | cons _ ih => exact .cons (ih hmore)

/-- Without any call nothing changes, and after calls the files are as the last one left them. -/
theorem HandsOn.eq_getLast {fs fs' : FileSystem} {calls : List Call} (h : HandsOn fs calls fs') :
    fs' = (calls.getLast?.map Call.after).getD fs := by
  induction h with
  | nil => rfl
  | @cons c calls fs' rest ih =>
    cases calls with
    | nil => exact ih
    | cons d more => rw [ih, List.getLast?_cons_cons, List.getLast?_cons]; rfl

theorem Logs.quiet {act : Procedure σ α} {outcome : Except Failure α} (h : Logs act outcome []) :
    Quiet act := by
  refine h.adds.mono ?_
  rintro fs _ _ _ ⟨rfl, -, rfl⟩
  exact .nil

theorem Consults.quiet {step : Procedure σ α} {argv : List String}
    {verdict : ToolResult → Except Failure α} (h : Consults step argv verdict) : Quiet step := by
  refine h.adds.mono ?_
  rintro _ _ _ _ ⟨c, rfl, -, rfl, rfl, -⟩
  exact .cons .nil

theorem Quiet.bind {act : Procedure σ β} {f : β → Procedure σ α} (h : Quiet act)
    (hf : ∀ b, Quiet (f b)) : Quiet (act >>= f) := by
  refine (Adds.bind h hf).mono ?_
  rintro fs _ _ fs' (⟨e, hact, -⟩ | ⟨b, mid, before, after, rfl, hact, hrest⟩)
  · exact hact
  · rw [called_append]
    exact hact.append hrest

theorem Quiet.mapFailure {act : Procedure σ α} {f : Failure → Failure} (h : Quiet act) :
    Quiet (Action.mapFailure f act) := h

theorem Quiet.releaseAfter {body : Procedure σ α} {release : Procedure σ Unit}
    {listen : Failure → Procedure σ Unit} (hbody : Quiet body) (hrelease : Quiet release)
    (hlisten : ∀ e, Logs (listen e) (.ok ()) []) :
    Quiet (releaseAfter release (some listen) body) := by
  refine (Adds.releaseAfter hbody hrelease hlisten).mono ?_
  rintro fs _ _ fs' ⟨before, after, _, _, mid, rfl, hbefore, hafter, -⟩
  rw [called_append]
  exact hbefore.append hafter

theorem LoopDevice.attach_quiet (runner : Runner σ) (path : String) (readOnly : Bool)
    (image : Option String) : Quiet (attach runner path readOnly image) := by
  intro w
  obtain ⟨c, hc, -⟩ := attach_call runner path readOnly image w
  obtain ⟨more, hmore, hc⟩ : ∃ more, called more = [] ∧
      c.Between (attachArgv path readOnly) more w (attach runner path readOnly image w).2 := by
    refine ⟨_, ?_, hc⟩
    rcases c.outcome with e | r
    · rfl
    · dsimp only
      split
      · cases reported? r.stdout <;> rfl
      · rfl
  refine ⟨_, hc.history, ?_⟩
  change HandsOn w.files (called (.called c :: more)) _
  rw [called_cons, hmore, List.append_nil, ← hc.before, hc.after]
  exact .cons .nil

end Quiet

namespace Shrinking

/-- The first call attached the file of an image, and a device was reported. -/
def Attached (image : Image) (calls : List Call) (device : String) : Prop :=
  ∃ a, calls.head? = some a ∧ a.Yields (LoopDevice.attachArgv image.fsPath.text false)
    fun r => r.ok = true ∧ LoopDevice.reported? r.stdout = some device

/-- The tools have done their part: on the device that was reported for the file of an image the
file system was resized to the number of blocks that it was estimated to need, and the device was
let go of. -/
inductive Ready (image : Image) (blocks : Nat) : List Call → Prop
  | intro {a k s z x : Call} {device : String}
      (attached : a.Yields (LoopDevice.attachArgv image.fsPath.text false)
        fun r => r.ok = true ∧ LoopDevice.reported? r.stdout = some device)
      (checked : k.argv = ["e2fsck", "-p", "-f", device])
      (estimated : s.Yields ["resize2fs", "-P", device]
        fun r => r.ok = true ∧ TrailingNumber.read (estimateText r) = .ok blocks)
      (resized : z.Yields ["resize2fs", device, String.ofList (Decimal.text blocks)]
        fun r => r.ok = true)
      (detached : x.Yields ["losetup", "--detach", device]
        fun r => r.ok = true ∨ r.isGone = true) :
    Ready image blocks [a, k, s, z, x]

/-- A call is answered as it has to be for an image to be shrunk to a number of blocks on a device.
What the check of the file system finds does not matter, as long as it can be told. -/
structure Served (image : Image) (device : String) (blocks : Nat) (c : Call) : Prop where
  attaching : c.argv = LoopDevice.attachArgv image.fsPath.text false →
    ∃ r, c.outcome = .ok r ∧ r.ok = true ∧ LoopDevice.reported? r.stdout = some device
  checking : c.argv = ["e2fsck", "-p", "-f", device] →
    ∃ r, c.outcome = .ok r ∧ Writable r.exitStatus
  estimating : c.argv = ["resize2fs", "-P", device] →
    ∃ r, c.outcome = .ok r ∧ r.ok = true ∧ TrailingNumber.read (estimateText r) = .ok blocks
  resizing : c.argv = ["resize2fs", device, String.ofList (Decimal.text blocks)] →
    ∃ r, c.outcome = .ok r ∧ r.ok = true
  detaching : c.argv = ["losetup", "--detach", device] →
    ∃ r, c.outcome = .ok r ∧ (r.ok = true ∨ r.isGone = true)

/-- The file of an image has the octets that it had, as many as there are of a number, and zeros
where there were fewer. Nothing else has changed. -/
def Cut (image : Image) (size : Nat) (fs fs' : FileSystem) : Prop :=
  ∃ place mode content content',
    fs.entryAt image.fsPath .object = .ok (.file mode content) ∧
    fs.get? place = some (.file mode content) ∧
    fs' = fs.insert place (.file (FileSystem.writtenMode mode) content') ∧
    fs'.entryAt image.fsPath .object = .ok (.file (FileSystem.writtenMode mode) content') ∧
    content'.toList = content.toList.take size ++ List.replicate (size - content.size) 0

/-- What shrinking an image comes to, by the calls that are made and the files that the last of
them left. -/
structure Cuts (image : Image) (calls : List Call) (last : FileSystem)
    (o : Except Failure MinimumSize) (fs' : FileSystem) : Prop where
  /-- An image is shrunk only by cutting its file after the tools have done their part. -/
  shrunk : ∀ minimum, o = .ok minimum → ∃ blocks : Nat, minimum = ⟨blocks, 4096⟩ ∧
    Ready image blocks calls ∧ Cut image (4096 * blocks) last fs'
  /-- The tools have done their part where every call that is made is answered as it has to be. -/
  served : ∀ device blocks, (∀ c ∈ calls, Served image device blocks c) → Ready image blocks calls
  /-- After they have, only the cutting itself can fail. -/
  returned : ∀ blocks : Nat, Ready image blocks calls →
    (truncateFile image (4096 * blocks : Nat) last).1 = .ok () → o = .ok ⟨blocks, 4096⟩
  /-- Where shrinking fails nothing was done to the files but by the calls. -/
  kept : ∀ e, o = .error e → fs' = last
  /-- A device is let go of once, and last. -/
  detached : ∀ device, Attached image calls device → ∃ others x, calls = others ++ [x] ∧
    x.argv = ["losetup", "--detach", device] ∧
    ∀ c ∈ others, c.argv ≠ ["losetup", "--detach", device]

section Files

variable {image : Image} {fs : FileSystem}

theorem lt_of_resizeFile {fs' : FileSystem} {place : Place} {size : Int}
    (h : fs.resizeFile place size = .ok fs') : size < 2 ^ 63 := by
  by_contra hbeyond
  rw [fs.resizeFile_beyond place (.inr (by omega))] at h
  cases h

/-- The file of an image is cut, to a size that a file can have, or nothing changes. -/
theorem truncateFile_cases (image : Image) (size : Nat) (fs : FileSystem) :
    (∃ fs', truncateFile image size fs = (.ok (), fs') ∧ size < 2 ^ 63 ∧ Cut image size fs fs') ∨
      ∃ e, truncateFile image size fs = (.error e, fs) := by
  unfold truncateFile
  rw [Action.bind_apply, Action.query_apply]
  rcases hopen : fs.openFile image.fsPath true with e | ⟨place, content⟩
  · exact .inr ⟨e, rfl⟩
  dsimp only
  rcases hresize : fs.resizeFile place size with e | fs'
  · exact .inr ⟨e, Action.change_apply_error hresize⟩
  obtain ⟨mode, hlocate⟩ := exists_of_openFile hopen
  have hget := FileSystem.get?_of_lookup (FileSystem.lookup_of_locateNamed hlocate)
  obtain ⟨-, rfl⟩ := exists_of_resizeFile hget hresize
  have hfile : ∀ old, some (Entry.file mode content) = some old →
      ∃ mode c, old = .file mode c := fun old hold => ⟨_, _, (Option.some.inj hold).symm⟩
  refine .inl ⟨_, Action.change_apply_ok hresize, by exact_mod_cast lt_of_resizeFile hresize,
    place, mode, content, _, entryAt_of_locate hlocate, hget, rfl,
    entryAt_of_locate (locate_insert_file (by simp) hfile hlocate _ _), ?_⟩
  exact Content.toList_resize content size

theorem exists_decimal_of_lt {n : Nat} (h : n < 2 ^ 63) : ∃ text, decimal n = .ok text :=
  ⟨_, decimal_of_writable (writable_of_lt (by omega))⟩

theorem bytes_blocks (blocks : Nat) : ({ blocks } : MinimumSize).bytes = (4096 * blocks : Nat) := by
  change (blocks : Int) * ((4096 : Nat) : Int) = _
  omega

theorem truncate_cases (image : Image) (blocks : Nat) (w : Run σ) :
    ((truncate image { blocks } w).1 = .ok () ∧
        Cut image (4096 * blocks) w.files (truncate image { blocks } w).2.files) ∨
      ∃ e e', (truncate image { blocks } w).1 = .error e ∧
        (truncate image { blocks } w).2.files = w.files ∧
        (truncateFile image (4096 * blocks : Nat) w.files).1 = .error e' := by
  rcases hdecimal : decimal ({ blocks } : MinimumSize).bytes with e | text
  · have hlogs : Logs (σ := σ) (truncate image { blocks }) (.error e) [] := by
      refine Logs.bind_error ?_
      rw [hdecimal]
      exact logs_ofExcept _
    rcases truncateFile_cases image (4096 * blocks) w.files with ⟨_, -, hlt, -⟩ | ⟨e', he'⟩
    · obtain ⟨text, htext⟩ := exists_decimal_of_lt hlt
      rw [bytes_blocks, htext] at hdecimal
      cases hdecimal
    · exact .inr ⟨e, e', (hlogs w).1, (hlogs w).2.1, by rw [he']⟩
  · have hstep := truncate_step (σ := σ) image hdecimal
    rw [bytes_blocks] at hstep
    rw [hstep.files w]
    rcases truncateFile_cases image (4096 * blocks) w.files with ⟨fs', hok, -, hcut⟩ | ⟨e', he'⟩
    · refine .inl ⟨(hstep.ok w ()).2 (by rw [hok]), ?_⟩
      rw [hok]
      exact hcut
    · rcases ho : (truncate image { blocks } w).1 with e | u
      · exact .inr ⟨e, e', rfl, by rw [he'], by rw [he']⟩
      · have hok := (hstep.ok w u).1 ho
        rw [he'] at hok
        cases hok

end Files

section Calls

variable {image : Image} {device : LoopDevice} {events : List Event}

theorem shrinkDevice_quiet (runner : Runner σ) (image : Image) (device : LoopDevice) :
    Quiet (shrinkDevice runner image device) := by
  have hresize : ∀ blocks : Nat, Quiet (resize runner image device blocks) := by
    intro blocks
    rcases hdecimal : decimal blocks with e | text
    · have hlogs : Logs (resize runner image device blocks) (.error e) [] := by
        refine Logs.bind_error ?_
        rw [hdecimal]
        exact logs_ofExcept _
      exact hlogs.quiet
    · exact (resize_consults runner image device hdecimal).quiet
  exact (check_consults runner image device).quiet.bind fun _ =>
    (estimate_consults runner image device).quiet.bind fun blocks =>
      (hresize blocks).bind fun _ => (logs_pure blocks).quiet

theorem withDevice_quiet (runner : Runner σ) (image : Image) :
    Quiet (LoopDevice.withDevice runner image.fsPath.text false (some image.uid)
      (shrinkDevice runner image)) :=
  (LoopDevice.attach_quiet runner _ _ _).mapFailure.bind fun device =>
    (shrinkDevice_quiet runner image device).releaseAfter
      (LoopDevice.detach_consults runner _ device).quiet fun _ => logs_record _

/-- Cutting the file makes no calls. -/
theorem adds_handsOn (runner : Runner σ) (image : Image) :
    Adds (shrink runner image) fun fs events _ _ => ∃ last, HandsOn fs (called events) last := by
  have htruncate : ∀ blocks : Nat, Adds (truncate (σ := σ) image { blocks })
      fun _ events _ _ => events = [] := fun blocks w =>
    ⟨[], (truncate_history image { blocks } w).trans (List.append_nil _).symm, rfl⟩
  refine (Adds.bind (withDevice_quiet runner image) fun blocks =>
    (htruncate blocks).before_logs fun _ => logs_pure ({ blocks } : MinimumSize)).mono ?_
  rintro fs _ _ _ (⟨e, hcalls, -⟩ | ⟨blocks, mid, before, _, rfl, hcalls, _, rfl, -⟩)
  · exact ⟨_, hcalls⟩
  · rw [List.append_nil]
    exact ⟨mid, hcalls⟩

theorem called_attached {a x : Call} {d : String} :
    called (.called a :: .deviceAttached d :: (events ++ [.called x])) =
      a :: (called events ++ [x]) := by
  rw [called_cons, called_cons, called_append]
  rfl

theorem attachVerdict_ok {path : String} {uid : Option String} {r : ToolResult}
    (h : LoopDevice.attachVerdict path false uid r = .ok device) :
    r.ok = true ∧ LoopDevice.reported? r.stdout = some device.path := by
  unfold LoopDevice.attachVerdict at h
  split_ifs at h with hok
  split at h
  · cases h
  · rename_i hreported
    obtain rfl := Except.ok.inj h
    exact ⟨hok, hreported⟩

theorem estimateVerdict_ok {r : ToolResult} {blocks : Nat}
    (h : estimateVerdict image device r = .ok blocks) : r.ok = true := by
  unfold estimateVerdict at h
  split_ifs at h with hok
  exact hok

theorem checkVerdict_ok {r : ToolResult} (told : Writable r.exitStatus) :
    checkVerdict r = .ok () := by
  unfold checkVerdict
  rw [decimal_of_writable told]
  split_ifs <;> rfl

theorem ofDigitChars_lt :
    ∀ {ds : List Char} (n : Nat), (∀ d ∈ ds, d.isDigit = true) →
      Nat.ofDigitChars 10 ds n < 10 ^ ds.length * (n + 1)
  | [], n, _ => by
    rw [Nat.ofDigitChars_nil, List.length_nil, Nat.pow_zero, Nat.one_mul]
    exact Nat.lt_succ_self n
  | d :: ds, n, h => by
    have hd : d.toNat - '0'.toNat < 10 := by
      have hdigit := h d (List.mem_cons_self ..)
      simp only [Char.isDigit, Bool.and_eq_true, decide_eq_true_eq] at hdigit
      have hle : d.toNat ≤ 57 := hdigit.2
      have hzero : '0'.toNat = 48 := rfl
      omega
    have ih := ofDigitChars_lt (10 * n + (d.toNat - '0'.toNat)) fun c hc =>
      h c (List.mem_cons_of_mem _ hc)
    rw [Nat.ofDigitChars_cons, List.length_cons, Nat.pow_succ, Nat.mul_assoc]
    exact Nat.lt_of_lt_of_le ih (Nat.mul_le_mul_left _ (by omega))

theorem writable_of_read {text : String} {n : Nat} (h : TrailingNumber.read text = .ok n) :
    Writable n := by
  obtain ⟨hsaid, hlength⟩ := TrailingNumber.read_eq_ok_iff.1 h
  obtain ⟨⟨-, hdigits⟩, rfl⟩ := TrailingNumber.says_iff.1 hsaid
  have hlt := ofDigitChars_lt 0 hdigits
  rw [Nat.zero_add, Nat.mul_one] at hlt
  refine (Nat.length_toDigits_le_iff (by decide) (by decide)).2 ?_
  exact Nat.lt_of_lt_of_le hlt (Nat.pow_le_pow_right (by decide) hlength)

theorem estimateVerdict_of_read {r : ToolResult} {blocks : Nat} (hok : r.ok = true)
    (hread : TrailingNumber.read (estimateText r) = .ok blocks) :
    estimateVerdict image device r = .ok blocks := by
  unfold estimateVerdict
  rw [if_pos hok, hread]
  dsimp only
  rw [decimal_of_writable (writable_of_read hread)]
  rfl

theorem resizeVerdict_ok {text : String} {r : ToolResult} :
    resizeVerdict image device text r = .ok () ↔ r.ok = true := by
  unfold resizeVerdict
  split_ifs with hok <;> simp [hok]

theorem detachVerdict_ok {uid : Option String} {r : ToolResult} :
    LoopDevice.detachVerdict device uid r = .ok () ↔ r.ok = true ∨ r.isGone = true := by
  unfold LoopDevice.detachVerdict
  rw [← Bool.or_eq_true]
  split_ifs with hok <;> simp [hok]

theorem attached_head {a : Call} {calls : List Call} {D : String}
    (hattached : a.outcome.bind
      (LoopDevice.attachVerdict image.fsPath.text false (some image.uid)) = .ok device)
    (h : Attached image (a :: calls) D) : device.path = D := by
  obtain ⟨r, hr, hverdict⟩ := bind_eq_ok.1 hattached
  obtain ⟨_, ha, -, r', hr', -, hreported⟩ := h
  obtain rfl := Option.some.inj ha
  rw [hr] at hr'
  obtain rfl := Except.ok.inj hr'
  exact Option.some.inj ((attachVerdict_ok hverdict).2.symm.trans hreported)

/-- On a device no call is made that lets go of it. -/
theorem ShrinksDevice.ne_losetup {o : Except Failure Nat}
    (h : ShrinksDevice image device events o) :
    ∀ c ∈ called events, c.argv.head? ≠ some "losetup" := by
  cases h with
  | unchecked check => simp [called, Event.call?, check]
  | unestimated check _ estimate => simp [called, Event.call?, check, estimate]
  | resized check _ estimate _ _ resize => simp [called, Event.call?, check, estimate, resize]

/-- A device that was resized was answered for by every tool. -/
theorem ShrinksDevice.yields {blocks : Nat} (h : ShrinksDevice image device events (.ok blocks)) :
    ∃ k s z, called events = [k, s, z] ∧ k.argv = ["e2fsck", "-p", "-f", device.path] ∧
      s.Yields ["resize2fs", "-P", device.path]
        (fun r => r.ok = true ∧ TrailingNumber.read (estimateText r) = .ok blocks) ∧
      z.Yields ["resize2fs", device.path, String.ofList (Decimal.text blocks)]
        (fun r => r.ok = true) := by
  obtain ⟨o, ho⟩ : ∃ o : Except Failure Nat, o = .ok blocks := ⟨_, rfl⟩
  rw [← ho] at h
  cases h with
  | unchecked => cases ho
  | unestimated => cases ho
  | @resized k s z n text check _ estimate estimated written resize =>
    obtain ⟨answer, hanswer, hestimate⟩ := bind_eq_ok.1 estimated
    rcases hz : z.outcome.bind (resizeVerdict image device text) with e | u
    · rw [hz] at ho
      cases ho
    rw [hz] at ho
    obtain rfl : n = blocks := Except.ok.inj ho
    obtain ⟨r, hr, hresize⟩ := bind_eq_ok.1 hz
    rw [Provisioning.eq_text_of_decimal written] at resize
    exact ⟨k, s, z, rfl, check,
      ⟨estimate, answer, hanswer, estimateVerdict_ok hestimate,
        Provisioning.read_of_estimateVerdict hestimate⟩,
      ⟨resize, r, hr, resizeVerdict_ok.1 hresize⟩⟩

/-- A device is resized where every call is answered as it has to be. -/
theorem ShrinksDevice.of_served {blocks : Nat} {o : Except Failure Nat}
    (h : ShrinksDevice image device events o)
    (served : ∀ c ∈ called events, Served image device.path blocks c) : o = .ok blocks := by
  have hestimated : ∀ s ∈ called events, s.argv = ["resize2fs", "-P", device.path] →
      s.outcome.bind (estimateVerdict image device) = .ok blocks := by
    intro s hs estimate
    obtain ⟨r, hr, hok, hread⟩ := (served s hs).estimating estimate
    exact bind_eq_ok.2 ⟨r, hr, estimateVerdict_of_read hok hread⟩
  cases h with
  | @unchecked k e check refused =>
    obtain ⟨r, hr, told⟩ := (served k (by simp [called, Event.call?])).checking check
    cases (bind_eq_ok.2 ⟨r, hr, checkVerdict_ok told⟩).symm.trans refused
  | @unestimated k s e _ _ estimate refused =>
    cases (hestimated s (by simp [called, Event.call?]) estimate).symm.trans refused
  | @resized k s z n text _ _ estimate estimated written resize =>
    obtain rfl := Except.ok.inj
      (estimated.symm.trans (hestimated s (by simp [called, Event.call?]) estimate))
    rw [Provisioning.eq_text_of_decimal written] at resize
    obtain ⟨r, hr, hok⟩ := (served z (by simp [called, Event.call?])).resizing resize
    rw [bind_eq_ok.2 ⟨r, hr, resizeVerdict_ok.2 hok⟩]
    rfl

/-- Once the tools have done their part, the device was resized and is let go of. -/
theorem Ready.released {a x : Call} {blocks : Nat} {o : Except Failure Nat}
    (h : Ready image blocks (a :: (called events ++ [x])))
    (hshrinks : ShrinksDevice image device events o) :
    firstError o (x.outcome.bind (LoopDevice.detachVerdict device (some image.uid))) =
      .ok blocks := by
  generalize hcalls : a :: (called events ++ [x]) = calls at h
  cases h with
  | @intro a' k' s' z' x' D attached checked estimated resized detached =>
  obtain ⟨rfl, hrest⟩ := List.cons.inj hcalls
  cases hshrinks with
  | unchecked => simp [called, Event.call?] at hrest
  | unestimated => simp [called, Event.call?] at hrest
  | @resized k s z n text _ _ _ hestimated _ _ =>
    simp only [called, Event.call?, List.filterMap_cons, List.filterMap_nil, List.cons_append,
      List.nil_append, List.cons.injEq, and_true] at hrest
    obtain ⟨rfl, rfl, rfl, rfl⟩ := hrest
    obtain ⟨-, rs, hrs, -, hread⟩ := estimated
    obtain ⟨-, rz, hrz, hz⟩ := resized
    obtain ⟨-, rx, hrx, hx⟩ := detached
    obtain ⟨rs', hrs', hverdict⟩ := bind_eq_ok.1 hestimated
    obtain rfl : rs = rs' := Except.ok.inj (hrs.symm.trans hrs')
    obtain rfl : n = blocks :=
      Except.ok.inj ((Provisioning.read_of_estimateVerdict hverdict).symm.trans hread)
    rw [bind_eq_ok.2 ⟨rz, hrz, resizeVerdict_ok.2 hz⟩,
      bind_eq_ok.2 ⟨rx, hrx, detachVerdict_ok.2 hx⟩]
    rfl

section Attached

variable {a x : Call} {o : Except Failure Nat}
  (attach : a.argv = LoopDevice.attachArgv image.fsPath.text false)
  (attached : a.outcome.bind
    (LoopDevice.attachVerdict image.fsPath.text false (some image.uid)) = .ok device)
  (shrinks : ShrinksDevice image device events o)
  (release : x.argv = ["losetup", "--detach", device.path])
include attach attached shrinks release

theorem exists_detach {D : String} (h : Attached image (a :: (called events ++ [x])) D) :
    ∃ others y, a :: (called events ++ [x]) = others ++ [y] ∧
      y.argv = ["losetup", "--detach", D] ∧ ∀ c ∈ others, c.argv ≠ ["losetup", "--detach", D] := by
  obtain rfl := attached_head attached h
  refine ⟨a :: called events, x, rfl, release, fun c hc hargv => ?_⟩
  rcases List.mem_cons.1 hc with rfl | hc
  · rw [attach] at hargv
    simp [LoopDevice.attachArgv] at hargv
  · exact shrinks.ne_losetup c hc (by rw [hargv]; rfl)

/-- The tools have done their part where a device was resized and let go of. -/
theorem ready_of_released {blocks : Nat} (released : firstError o
      (x.outcome.bind (LoopDevice.detachVerdict device (some image.uid))) = .ok blocks) :
    Ready image blocks (a :: (called events ++ [x])) := by
  obtain ⟨rfl, hreleased⟩ := firstError_eq_ok.1 released
  obtain ⟨ra, hra, hattach⟩ := bind_eq_ok.1 attached
  obtain ⟨rx, hrx, hdetach⟩ := bind_eq_ok.1 hreleased
  obtain ⟨k, s, z, hcalls, hk, hs, hz⟩ := shrinks.yields
  rw [hcalls]
  exact .intro ⟨attach, ra, hra, attachVerdict_ok hattach⟩ hk hs hz
    ⟨release, rx, hrx, detachVerdict_ok.1 hdetach⟩

theorem ready_of_served {D : String} {blocks : Nat}
    (served : ∀ c ∈ a :: (called events ++ [x]), Served image D blocks c) :
    Ready image blocks (a :: (called events ++ [x])) := by
  obtain ⟨r, hr, hok, hreported⟩ := (served a (by simp)).attaching attach
  have hhead : Attached image (a :: (called events ++ [x])) D :=
    ⟨a, rfl, attach, r, hr, hok, hreported⟩
  obtain rfl := attached_head attached hhead
  have hdone := shrinks.of_served fun c hc => served c (by simp [hc])
  obtain ⟨rx, hx, hdetached⟩ := (served x (by simp)).detaching release
  refine ready_of_released attach attached shrinks release ?_
  rw [hdone, bind_eq_ok.2 ⟨rx, hx, detachVerdict_ok.2 hdetached⟩]
  rfl

end Attached

theorem Shrinks.cuts {o : Except Failure MinimumSize} {fs fs' last : FileSystem}
    (h : Shrinks image events o fs') (hcalls : HandsOn fs (called events) last) :
    Cuts image (called events) last o fs' := by
  have hlast := hcalls.eq_getLast
  cases h with
  | @unattached a e attach refused =>
    refine ⟨fun _ h => (by cases h), fun D blocks hserved => ?_, fun blocks hready _ => ?_,
      fun _ _ => hlast.symm, ?_⟩
    · obtain ⟨r, hr, hok, hreported⟩ := (hserved a (List.mem_singleton_self a)).attaching attach
      simp [hr, Except.bind, LoopDevice.attachVerdict, hok, hreported] at refused
    · cases hready
    · rintro D ⟨a', ha', -, r, hr, hok, hreported⟩
      obtain rfl := Option.some.inj ha'
      simp [hr, Except.bind, LoopDevice.attachVerdict, hok, hreported] at refused
  | @unshrunk a x device inside o e attach attached shrinks release refused =>
    rw [called_attached] at hlast ⊢
    obtain rfl : last = x.after := by
      rw [hlast, ← List.cons_append, List.getLast?_concat]
      rfl
    refine ⟨fun _ h => (by cases h),
      fun _ _ hserved => ready_of_served attach attached shrinks release hserved,
      fun blocks hready _ => ?_, fun _ _ => rfl,
      fun _ => exists_detach attach attached shrinks release⟩
    rw [hready.released shrinks] at refused
    cases refused
  | @shrunk σ w a x device inside o blocks attach attached shrinks release released files =>
    rw [called_attached] at hlast ⊢
    obtain rfl : last = x.after := by
      rw [hlast, ← List.cons_append, List.getLast?_concat]
      rfl
    have hready := ready_of_released attach attached shrinks release released
    have hserved : ∀ D n, (∀ c ∈ a :: (called inside ++ [x]), Served image D n c) →
        Ready image n (a :: (called inside ++ [x])) := fun _ _ =>
      ready_of_served attach attached shrinks release
    have hblocks : ∀ n, Ready image n (a :: (called inside ++ [x])) → n = blocks := fun n hn =>
      Except.ok.inj ((hn.released shrinks).symm.trans released)
    rw [← files]
    rcases truncate_cases image blocks w with ⟨hok, hcut⟩ | ⟨e, e', herror, hkept, hrefused⟩
    · rw [hok]
      refine ⟨fun minimum h => ⟨blocks, (Except.ok.inj h).symm, hready, hcut⟩, hserved,
        fun n hn _ => ?_, fun _ h => (by cases h),
        fun _ => exists_detach attach attached shrinks release⟩
      rw [hblocks n hn]
      rfl
    · rw [herror]
      refine ⟨fun _ h => (by cases h), hserved, fun n hn h => ?_, fun _ _ => hkept,
        fun _ => exists_detach attach attached shrinks release⟩
      rw [hblocks n hn, hrefused] at h
      cases h

end Calls

/-- Shrinking an image cuts its file to the size that its file system was resized to, where the
tools answer as they have to, and only after the device was let go of. In every other case it fails,
and leaves the files to the calls. -/
theorem shrink_cuts (runner : Runner σ) (image : Image) (w : Run σ) :
    ∃ events last, (shrink runner image w).2.history = w.history ++ events ∧
      HandsOn w.files (called events) last ∧
      Cuts image (called events) last (shrink runner image w).1
        (shrink runner image w).2.files := by
  obtain ⟨events, hevents, hshrinks⟩ := adds_shrinks runner image w
  obtain ⟨events', hevents', last, hcalls⟩ := adds_handsOn runner image w
  obtain rfl : events' = events := List.append_cancel_left (hevents'.symm.trans hevents)
  exact ⟨events', last, hevents, hcalls, hshrinks.cuts hcalls⟩

/-- A host with the file of an image. -/
def imageHost : FileSystem :=
  ((Provisioning.workingHost.insert ["images"] (.directory 0o755)).insert ["guest", "images"]
    (.directory 0o755)).insert ["IMAGE_FS", "guest", "images"] (.file 0o644 ⟨[1, 2, 3], 0⟩)

theorem shrink_cuts_imageHost :
    let w : Run Unit := { files := imageHost, runner := () }
    let image := Provisioning.largeImage
    let shrunk := shrink Provisioning.workingRunner image w
    (∃ events last, shrunk.2.history = w.history ++ events ∧
        HandsOn w.files (called events) last ∧
        Cuts image (called events) last shrunk.1 shrunk.2.files) ∧
      (called shrunk.2.history).length = 5 ∧ shrunk.1 = .ok ⟨25600, 4096⟩ ∧
      shrunk.2.files.entryAt image.fsPath .object =
        .ok (.file 0o644 ⟨[1, 2, 3], 4096 * 25600 - 3⟩) :=
  ⟨shrink_cuts _ _ _, by decide +kernel, by decide +kernel, by decide +kernel⟩

end Shrinking

end GuestImage
