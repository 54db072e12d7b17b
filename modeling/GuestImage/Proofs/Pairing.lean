import GuestImage.Proofs.Sequence
import GuestImage.Proofs.Sizes

/-!
# What is held is let go of

After a call that mounts an image was answered with success there is exactly one that unmounts it
(`RunCalls.unmountedOnce`), and after one that reports a device exactly one that detaches it
(`RunCalls.detachedOnce`). Where the calls are answered, no release is interrupted but that of the
source (`RunMoves.interruptedOnly`), so that in all other runs the earliest failure is the one that
is reported (`provision_inOrder`).
-/

namespace GuestImage

variable {σ : Type}

section Answers

variable {moves : List Move} {unpacker : Unpacker} {image : Image} {source : Source} {d : Path}
  {fs fs' : FileSystem}

/-- Every one of some calls was answered. -/
def Answered (calls : List Call) : Prop :=
  ∀ c ∈ calls, ∃ r, c.outcome = .ok r

theorem refusal_isOrdinary {r : ToolResult} {failure : String → Failure}
    (h : ∀ status, (failure status).isOrdinary = true) : (refusal r failure).isOrdinary = true := by
  unfold refusal decimal
  rcases Decimal.text? r.exitStatus with _ | status
  · rfl
  · exact h status

theorem isOrdinary_of_answered {c : Call} (verdict : ToolResult → Except Failure Unit)
    (failure : ToolResult → String → Failure)
    (hverdict : ∀ r, verdict r = .ok () ∨ verdict r = .error (refusal r (failure r)))
    (hfailure : ∀ r status, (failure r status).isOrdinary = true)
    (h : ∃ r, c.outcome = .ok r) {e : Failure} (he : c.outcome.bind verdict = .error e) :
    e.isOrdinary = true := by
  obtain ⟨r, hr⟩ := h
  rw [hr] at he
  have he : verdict r = .error e := he
  rcases hverdict r with hok | herror
  · rw [hok] at he
    cases he
  · rw [herror] at he
    obtain rfl := Except.error.inj he
    exact refusal_isOrdinary (hfailure r)

theorem Unpacker.Moves.interruptedOnly
    (h : Unpacker.Moves image source d fs unpacker moves fs') :
    InterruptedOnly (Cleans image source) moves := by
  cases h with
  | unopened =>
    intro s hs hreleases
    rcases List.mem_cons.1 hs with rfl | hs
    · cases hreleases
    · exact .inl ⟨_, List.mem_singleton.1 hs⟩
  | opened =>
    intro s hs hreleases
    rcases List.mem_cons.1 hs with rfl | hs
    · cases hreleases
    · exact .inl ⟨_, List.mem_singleton.1 hs⟩
  | steps => exact interruptedOnly_of_none (by simp [Move.quiet])

theorem Population.FillMoves.interruptedOnly (h : FillMoves unpacker image source d fs moves) :
    InterruptedOnly (Unpacker.Cleans image source) moves := by
  cases h with
  | refused unpacks => exact unpacks.interruptedOnly
  | unpacked unpacks =>
    exact unpacks.interruptedOnly.append (interruptedOnly_of_none (by simp [Move.quiet]))

theorem Population.Moves.interruptedOnly {dir : Path}
    (h : Population.Moves unpacker dir image source fs moves)
    (hanswered : Answered (callsOf moves)) :
    InterruptedOnly (Unpacker.Cleans image source) moves := by
  cases h with
  | unmade => exact interruptedOnly_of_none (by simp [Move.failing])
  | unmounted => exact interruptedOnly_of_none (by simp [Move.calling])
  | @mounted d m u moves fresh argv accepted fills release =>
    refine InterruptedOnly.cons_calling (fills.interruptedOnly.release fun e he => ?_)
    refine isOrdinary_of_answered (unmountVerdict image d) (unmountFailure image d) (fun r => ?_)
      (fun r status => rfl) (hanswered u (by simp [callsOf_append])) he
    unfold unmountVerdict
    split
    · exact .inl rfl
    · exact .inr rfl

theorem Shrinking.DeviceMoves.releases {device : LoopDevice} {o : Except Failure Nat}
    (h : DeviceMoves image device moves o) : ∀ s ∈ moves, s.releases = false := by
  cases h with
  | unchecked => simp [Move.calling]
  | unestimated => simp [Move.calling]
  | resized => simp [Move.calling]

theorem Shrinking.AttachedMoves.interruptedOnly {kind : Move → Prop} {o : Except Failure Nat}
    (h : AttachedMoves image moves o fs) (hanswered : Answered (callsOf moves)) :
    InterruptedOnly kind moves := by
  cases h with
  | unattached => exact interruptedOnly_of_none (by simp [Move.calling])
  | @attached a x device moves o attach attached shrinks release =>
    have hheld : InterruptedOnly kind moves := interruptedOnly_of_none shrinks.releases
    refine InterruptedOnly.cons_calling (hheld.release fun e he => ?_)
    refine isOrdinary_of_answered (LoopDevice.detachVerdict device (some image.uid))
      (LoopDevice.detachFailure device (some image.uid)) (fun r => ?_)
      (fun r status => rfl) (hanswered x (by simp [callsOf_append])) he
    unfold LoopDevice.detachVerdict
    split
    · exact .inl rfl
    · exact .inr rfl

theorem Shrinking.Moves.interruptedOnly {kind : Move → Prop} (h : Shrinking.Moves image moves)
    (hanswered : Answered (callsOf moves)) : InterruptedOnly kind moves := by
  cases h with
  | unshrunk attaches => exact attaches.interruptedOnly hanswered
  | shrunk attaches =>
    have hattached : InterruptedOnly kind _ :=
      attaches.interruptedOnly fun c hc => hanswered c (by simp [callsOf_append, hc])
    exact hattached.append (interruptedOnly_of_none (by simp [Move.quiet]))

theorem Provisioning.Sequence.interruptedOnly {settings : Settings} {dir : Path}
    (h : Sequence settings unpacker image source dir fs moves)
    (hanswered : Answered (callsOf moves)) :
    InterruptedOnly (Unpacker.Cleans image source) moves := by
  cases h with
  | unmade => exact interruptedOnly_of_none (by simp [Move.failing])
  | unformatted => exact interruptedOnly_of_none (by simp [Move.calling])
  | unpopulated formats formatted populates =>
    refine (populates.interruptedOnly fun c hc => ?_).cons_calling
    exact hanswered c (by simp [hc])
  | populated formats formatted populates sound shrinks =>
    refine InterruptedOnly.cons_calling (.append (populates.interruptedOnly fun c hc => ?_)
      (shrinks.interruptedOnly fun c hc => ?_))
    · exact hanswered c (by simp [callsOf_append, hc])
    · exact hanswered c (by simp [callsOf_append, hc])

/-- Where the calls are answered, only the release of the source may be interrupted. -/
theorem Provisioning.RunMoves.interruptedOnly {runner : Runner σ} {settings : Settings}
    {unpacker : Option Unpacker} {preflight : Bool} {dir : Path}
    (h : RunMoves runner settings unpacker preflight image source dir fs moves)
    (hanswered : Answered (callsOf moves)) :
    InterruptedOnly (Unpacker.Cleans image source) moves := by
  cases h with
  | unready => exact interruptedOnly_of_none (by simp [Move.failing])
  | ready sequence => exact sequence.interruptedOnly hanswered

end Answers

section Once

variable {moves : List Move} {unpacker : Unpacker} {image : Image} {source : Source}
  {fs fs' : FileSystem}

/-- The tool that a call is of. -/
def Call.tool (c : Call) : String :=
  c.argv.headD ""

theorem Unpacker.Moves.tool {d : Path} (h : Unpacker.Moves image source d fs unpacker moves fs') :
    ∀ c ∈ callsOf moves, c.tool = "tar" := by
  cases h with
  | unopened => simp [cleaning]
  | opened opens argv => simp [cleaning, Call.tool, argv, Unpacker.argv]
  | steps => simp

theorem Population.FillMoves.tool {d : Path} (h : FillMoves unpacker image source d fs moves) :
    ∀ c ∈ callsOf moves, c.tool = "tar" := by
  cases h with
  | refused unpacks => exact unpacks.tool
  | unpacked unpacks =>
    intro c hc
    exact unpacks.tool c (by simpa [callsOf_append] using hc)

theorem Shrinking.DeviceMoves.tool {device : LoopDevice} {o : Except Failure Nat}
    (h : DeviceMoves image device moves o) :
    ∀ c ∈ callsOf moves, c.tool = "e2fsck" ∨ c.tool = "resize2fs" := by
  cases h with
  | unchecked check => simp [Call.tool, check]
  | unestimated check checked estimate => simp [Call.tool, check, estimate]
  | resized check checked estimate estimated written resize =>
    simp [Call.tool, check, estimate, resize]

/-- A call of one tool is not one of another. -/
theorem Call.argv_ne {c : Call} {name tool : String} {arguments : List String} (h : c.tool = tool)
    (hne : tool ≠ name) : c.argv ≠ name :: arguments := by
  intro hargv
  rw [Call.tool, hargv] at h
  exact hne h.symm

/-- The calls that populate an image: one that mounts it and, if that is answered with success, one
that unmounts it in the end. -/
inductive MountCalls (image : Image) : List Call → Prop
  | none : MountCalls image []
  | refused {m : Call} {d : Path} (argv : m.argv = Population.mountArgv image d)
      (refused : m.outcome.bind (Population.mountVerdict image d) ≠ .ok ()) : MountCalls image [m]
  | held {m u : Call} {d : Path} {inside : List Call}
      (argv : m.argv = Population.mountArgv image d) (tool : ∀ c ∈ inside, c.tool = "tar")
      (release : u.argv = ["umount", d.text]) : MountCalls image (m :: (inside ++ [u]))

/-- The calls that shrink an image: one that attaches it and, if that reports a device, one that
detaches it in the end. -/
inductive DeviceCalls (image : Image) : List Call → Prop
  | refused {a : Call} (argv : a.argv = LoopDevice.attachArgv image.fsPath.text false)
      (refused : ∀ device, a.outcome.bind
        (LoopDevice.attachVerdict image.fsPath.text false (some image.uid)) ≠ .ok device) :
    DeviceCalls image [a]
  | held {a x : Call} {device : LoopDevice} {inside : List Call}
      (argv : a.argv = LoopDevice.attachArgv image.fsPath.text false)
      (attached : a.outcome.bind
        (LoopDevice.attachVerdict image.fsPath.text false (some image.uid)) = .ok device)
      (tool : ∀ c ∈ inside, c.tool = "e2fsck" ∨ c.tool = "resize2fs")
      (release : x.argv = ["losetup", "--detach", device.path]) :
    DeviceCalls image (a :: (inside ++ [x]))

theorem Population.Moves.calls {dir : Path}
    (h : Population.Moves unpacker dir image source fs moves) :
    MountCalls image (callsOf moves) := by
  cases h with
  | unmade => exact .none
  | unmounted fresh argv refused => exact .refused argv (by simp [refused])
  | @mounted d m u moves fresh argv accepted fills release =>
    rw [callsOf_calling, callsOf_append]
    exact .held argv fills.tool release

theorem Shrinking.AttachedMoves.calls {o : Except Failure Nat}
    (h : AttachedMoves image moves o fs) :
    DeviceCalls image (callsOf moves) := by
  cases h with
  | unattached attach refused => exact .refused attach (by simp [refused])
  | attached attach attached shrinks release =>
    rw [callsOf_calling, callsOf_append]
    exact .held attach attached shrinks.tool release

theorem Shrinking.Moves.calls (h : Shrinking.Moves image moves) :
    DeviceCalls image (callsOf moves) := by
  cases h with
  | unshrunk attaches => exact attaches.calls
  | shrunk attaches =>
    rw [callsOf_append, callsOf_quiet, callsOf_nil, List.append_nil]
    exact attaches.calls

/-- The calls of a run. -/
inductive RunCalls (image : Image) : List Call → Prop
  | none : RunCalls image []
  | refused {f : Call} (argv : f.argv = Allocation.formatArgv image.fsPath.text) :
    RunCalls image [f]
  | formatted {f : Call} {inside after : List Call}
      (argv : f.argv = Allocation.formatArgv image.fsPath.text) (populate : MountCalls image inside)
      (shrink : after = [] ∨ DeviceCalls image after) : RunCalls image (f :: (inside ++ after))

theorem Provisioning.Sequence.calls {settings : Settings} {dir : Path}
    (h : Sequence settings unpacker image source dir fs moves) :
    RunCalls image (callsOf moves) := by
  cases h with
  | unmade => exact .none
  | unformatted formats => exact .refused formats.argv
  | unpopulated formats formatted populates =>
    have hcalls := RunCalls.formatted formats.argv populates.calls (.inl rfl)
    rwa [List.append_nil] at hcalls
  | populated formats formatted populates sound shrinks =>
    rw [callsOf_calling, callsOf_append]
    exact .formatted formats.argv populates.calls (.inr shrinks.calls)

theorem Provisioning.RunMoves.calls {runner : Runner σ} {settings : Settings}
    {unpacker : Option Unpacker} {preflight : Bool} {dir : Path}
    (h : RunMoves runner settings unpacker preflight image source dir fs moves) :
    RunCalls image (callsOf moves) := by
  cases h with
  | unready => exact .none
  | ready sequence => exact sequence.calls

theorem MountCalls.tool {calls : List Call} (h : MountCalls image calls) :
    ∀ c ∈ calls, c.tool = "mount" ∨ c.tool = "tar" ∨ c.tool = "umount" := by
  cases h with
  | none => simp
  | refused argv => simp [Call.tool, argv, Population.mountArgv]
  | @held m u d inside argv tool release =>
    intro c hc
    simp only [List.mem_cons, List.mem_append, List.not_mem_nil, or_false] at hc
    rcases hc with rfl | hc | rfl
    · exact .inl (by simp [Call.tool, argv, Population.mountArgv])
    · exact .inr (.inl (tool c hc))
    · exact .inr (.inr (by simp [Call.tool, release]))

theorem DeviceCalls.tool {calls : List Call} (h : DeviceCalls image calls) :
    ∀ c ∈ calls, c.tool = "losetup" ∨ c.tool = "e2fsck" ∨ c.tool = "resize2fs" := by
  cases h with
  | refused argv => simp [Call.tool, argv, LoopDevice.attachArgv]
  | @held a x device inside argv attached tool release =>
    intro c hc
    simp only [List.mem_cons, List.mem_append, List.not_mem_nil, or_false] at hc
    rcases hc with rfl | hc | rfl
    · exact .inl (by simp [Call.tool, argv, LoopDevice.attachArgv])
    · exact .inr (tool c hc)
    · exact .inl (by simp [Call.tool, release])

theorem MountCalls.unmountedOnce {calls : List Call} (h : MountCalls image calls) {m : Call}
    {d : Path} {r : ToolResult} (hm : m ∈ calls) (hargv : m.argv = Population.mountArgv image d)
    (hr : m.outcome = .ok r) (hok : r.ok = true) : CalledOnce calls ["umount", d.text] := by
  have hmount : m.tool = "mount" := by simp [Call.tool, hargv, Population.mountArgv]
  cases h with
  | none => simp at hm
  | @refused m' d' argv refused =>
    obtain rfl := List.mem_singleton.1 hm
    refine absurd ?_ refused
    rw [hr]
    exact if_pos hok
  | @held m' u d' inside argv tool release =>
    simp only [List.mem_cons, List.mem_append, List.not_mem_nil, or_false] at hm
    rcases hm with rfl | hm | rfl
    · have htext : d.text = d'.text := by
        have heq := hargv.symm.trans argv
        simpa [Population.mountArgv] using heq
      rw [htext]
      refine ⟨m :: inside, u, [], by simp, release, fun x hx => ?_⟩
      simp only [List.append_nil, List.mem_cons] at hx
      rcases hx with rfl | hx
      · exact Call.argv_ne hmount (by simp)
      · exact Call.argv_ne (tool x hx) (by simp)
    · rw [tool m hm] at hmount
      simp at hmount
    · rw [Call.tool, release] at hmount
      simp at hmount

theorem DeviceCalls.detachedOnce {calls : List Call} (h : DeviceCalls image calls) {a : Call}
    {r : ToolResult} {device : String} (ha : a ∈ calls)
    (hargv : a.argv = LoopDevice.attachArgv image.fsPath.text false) (hr : a.outcome = .ok r)
    (hok : r.ok = true) (hreported : LoopDevice.reported? r.stdout = some device) :
    CalledOnce calls ["losetup", "--detach", device] := by
  have hverdict : a.outcome.bind
      (LoopDevice.attachVerdict image.fsPath.text false (some image.uid)) =
        .ok ⟨device, Path.ofText image.fsPath.text, false⟩ := by
    rw [hr]
    simp [Except.bind, LoopDevice.attachVerdict, hok, hreported]
  cases h with
  | refused argv refused =>
    obtain rfl := List.mem_singleton.1 ha
    exact absurd hverdict (refused _)
  | @held a' x device' inside argv attached tool release =>
    simp only [List.mem_cons, List.mem_append, List.not_mem_nil, or_false] at ha
    rcases ha with rfl | ha | rfl
    · obtain rfl := Except.ok.inj (hverdict.symm.trans attached)
      refine ⟨a :: inside, x, [], by simp, release, fun c hc => ?_⟩
      simp only [List.append_nil, List.mem_cons] at hc
      rcases hc with rfl | hc
      · simp [hargv, LoopDevice.attachArgv]
      · rcases tool c hc with hc | hc
        · exact Call.argv_ne hc (by simp)
        · exact Call.argv_ne hc (by simp)
    · have hlosetup : a.tool = "losetup" := by simp [Call.tool, hargv, LoopDevice.attachArgv]
      rcases tool a ha with h | h
      · simp [h] at hlosetup
      · simp [h] at hlosetup
    · simp [hargv, LoopDevice.attachArgv] at release

theorem RunCalls.unmountedOnce {calls : List Call} (h : RunCalls image calls) {m : Call}
    {d : Path} {r : ToolResult} (hm : m ∈ calls) (hargv : m.argv = Population.mountArgv image d)
    (hr : m.outcome = .ok r) (hok : r.ok = true) : CalledOnce calls ["umount", d.text] := by
  have hmount : m.tool = "mount" := by simp [Call.tool, hargv, Population.mountArgv]
  cases h with
  | none => simp at hm
  | refused argv =>
    obtain rfl := List.mem_singleton.1 hm
    simp [Call.tool, argv, Allocation.formatArgv] at hmount
  | @formatted f inside after argv populate shrink =>
    have hafter : ∀ c ∈ after, c.tool = "losetup" ∨ c.tool = "e2fsck" ∨ c.tool = "resize2fs" := by
      rcases shrink with rfl | shrink
      · simp
      · exact shrink.tool
    have hinside : m ∈ inside := by
      rcases List.mem_cons.1 hm with rfl | hm
      · simp [Call.tool, argv, Allocation.formatArgv] at hmount
      · rcases List.mem_append.1 hm with hm | hm
        · exact hm
        · rcases hafter m hm with h | h | h <;> simp [h] at hmount
    have hf : ∀ c ∈ [f], c.argv ≠ ["umount", d.text] := by simp [argv, Allocation.formatArgv]
    refine (populate.unmountedOnce hinside hargv hr hok).between hf fun c hc => ?_
    · rcases hafter c hc with h | h | h
      · exact Call.argv_ne h (by simp)
      · exact Call.argv_ne h (by simp)
      · exact Call.argv_ne h (by simp)

theorem RunCalls.detachedOnce {calls : List Call} (h : RunCalls image calls) {a : Call}
    {r : ToolResult} {device : String} (ha : a ∈ calls)
    (hargv : a.argv = LoopDevice.attachArgv image.fsPath.text false) (hr : a.outcome = .ok r)
    (hok : r.ok = true) (hreported : LoopDevice.reported? r.stdout = some device) :
    CalledOnce calls ["losetup", "--detach", device] := by
  have hlosetup : a.tool = "losetup" := by simp [Call.tool, hargv, LoopDevice.attachArgv]
  cases h with
  | none => simp at ha
  | refused argv =>
    obtain rfl := List.mem_singleton.1 ha
    simp [Call.tool, argv, Allocation.formatArgv] at hlosetup
  | @formatted f inside after argv populate shrink =>
    have hafter : a ∈ after := by
      rcases List.mem_cons.1 ha with rfl | ha
      · simp [Call.tool, argv, Allocation.formatArgv] at hlosetup
      · rcases List.mem_append.1 ha with ha | ha
        · rcases populate.tool a ha with h | h | h <;> simp [h] at hlosetup
        · exact ha
    rcases shrink with rfl | shrink
    · simp at hafter
    have hbefore : ∀ c ∈ f :: inside, c.argv ≠ ["losetup", "--detach", device] := by
      intro c hc
      rcases List.mem_cons.1 hc with rfl | hc
      · simp [argv, Allocation.formatArgv]
      · rcases populate.tool c hc with h | h | h
        · exact Call.argv_ne h (by simp)
        · exact Call.argv_ne h (by simp)
        · exact Call.argv_ne h (by simp)
    have honce := shrink.detachedOnce hafter hargv hr hok hreported
    have hnone : ∀ c ∈ ([] : List Call), c.argv ≠ ["losetup", "--detach", device] := by simp
    simpa using honce.between hbefore hnone

end Once

namespace Provisioning

/-- A run makes its calls in order, and reports the failure that is left of its moves. -/
structure InOrder (runner : Runner σ) (settings : Settings) (unpacker : Option Unpacker)
    (preflight : Bool) (image : Image) (source : Source) (dir : Path) (fs : FileSystem)
    (moves : List Move) (calls : List Call) (o : Except Failure Report) : Prop where
  /-- The moves are those of a run up to the first that fails, and the releases after it. -/
  run : RunMoves runner settings unpacker preflight image source dir fs moves
  made : calls = callsOf moves
  halts : Halts moves
  /-- The failure that is left is the one that is reported, and there is none in a run that ends
  well. -/
  reported : match survivor moves with
    | none => ∃ report, o = .ok report
    | some e => ∃ e', o = .error e' ∧ Named e e'
  /-- Of a run whose calls are answered the earliest failure is left, or it is the interruption of
  the release of the source. -/
  earliest : Answered calls → survivor moves = moves.findSome? Move.failure ∨
    ∃ s ∈ moves, Unpacker.Cleans image source s ∧ ∃ r, s.failure = some r ∧
      r.isOrdinary = false ∧ survivor moves = some r
  unmounted : ∀ m ∈ calls, ∀ d r, m.argv = Population.mountArgv image d → m.outcome = .ok r →
    r.exitStatus = 0 → CalledOnce calls ["umount", d.text]
  detached : ∀ a ∈ calls, ∀ r device,
    a.argv = LoopDevice.attachArgv image.fsPath.text false → a.outcome = .ok r →
      r.exitStatus = 0 → LoopDevice.reported? r.stdout = some device →
        CalledOnce calls ["losetup", "--detach", device]

/-- Every run makes its calls in order. -/
theorem provision_inOrder (runner : Runner σ) (settings : Settings) (unpacker : Option Unpacker)
    (preflight : Bool) (image : Image) (source : Source) (dir : Path) (w : Run σ) :
    ∃ events moves,
      (provision runner settings unpacker preflight image source dir w).2.history =
        w.history ++ events ∧
      InOrder runner settings unpacker preflight image source dir w.files moves (called events)
        (provision runner settings unpacker preflight image source dir w).1 := by
  obtain ⟨events, hevents, hprovisions⟩ :=
    adds_provisions runner settings unpacker preflight image source dir w
  obtain ⟨moves, o, hmoves, haccounts, hreports⟩ := hprovisions.moves
  refine ⟨events, moves, hevents, hmoves, haccounts.calls, haccounts.halts, ?_, ?_, ?_, ?_⟩
  · rw [haccounts.left]
    rcases hreports with ⟨e, e', rfl, ho, hnamed⟩ | ⟨report, rfl, ho⟩
    · exact ⟨e', ho, hnamed⟩
    · exact ⟨report, ho⟩
  · intro hanswered
    rw [haccounts.calls] at hanswered
    exact (hmoves.interruptedOnly hanswered).survivor_eq haccounts.halts
  · intro m hm d r hargv hr hstatus
    rw [haccounts.calls] at hm ⊢
    exact hmoves.calls.unmountedOnce hm hargv hr (decide_eq_true hstatus)
  · intro a ha r device hargv hr hstatus hreported
    rw [haccounts.calls] at ha ⊢
    exact hmoves.calls.detachedOnce ha hargv hr (decide_eq_true hstatus) hreported

/-- A runner whose calls succeed but for those that unpack. -/
def unpackingFailsRunner : Runner Unit where
  run argv stdin s :=
    if argv.head? = some "tar" then (⟨.ok { argv, exitStatus := 2 }, none⟩, s)
    else workingRunner.run argv stdin s
  ensureAvailable _ _ := .ok ()

/-- A source whose release is interrupted. -/
def interruptedSource : Source :=
  { openStream := fun _ => .ok ⟨[], none⟩, release := fun _ => .error ⟨.interruption "stop", []⟩ }

/-- The interruption of a release takes the place of the failure to unpack, which was the first. -/
theorem provision_interruptedSource :
    let ended := provision unpackingFailsRunner {} none false largeImage interruptedSource
      Population.temporaryDirectory { files := workingHost, runner := () }
    (called ended.2.history).map (fun c => (c.tool, c.outcome.map ToolResult.exitStatus)) =
        [("mkfs.ext4", .ok 0), ("mount", .ok 0), ("tar", .ok 2), ("umount", .ok 0)] ∧
      ended.1 = .error ⟨.interruption "stop", []⟩ := by
  decide +kernel

end Provisioning

end GuestImage
