import GuestImage.Proofs.Calls
import GuestImage.Proofs.Records

/-!
# Unpacking with the tool

The source that the tool reads is released once, at the very end, whatever came before: a source
that could not be opened, a call that failed, one that unpacked, or a stream that could not be
closed after the call (`Draws`). Which of the two failures is then the outcome, and whether the
other one is logged, is told by what the steps before the release and the release came to
(`Closes`).
-/

namespace GuestImage

variable {σ α β : Type}

/-- Whether a failure, or one that led to it, is the refusal of what is not there: of a name, of a
device, or of what is behind one. -/
def Failure.SaysGone (e : Failure) : Prop :=
  ∃ r : Refusal, .refusal r ∈ e.chain ∧
    (r.kind = .missing ∨ r.number = some 2 ∨ r.number = some 6 ∨ r.number = some 19)

theorem Failure.isGone_eq_true {e : Failure} : e.isGone = true ↔ e.SaysGone := by
  rw [Failure.isGone_iff]
  constructor
  · rintro ⟨f, hf, hgone⟩
    cases f with
    | refusal r => exact ⟨r, hf, by simpa [Fault.isGone, Refusal.isGone, or_assoc] using hgone⟩
    | _ => cases hgone
  · rintro ⟨r, hr, hgone⟩
    exact ⟨_, hr, by simpa [Fault.isGone, Refusal.isGone, or_assoc] using hgone⟩

namespace Unpacker

/-- The call of the tool on the stream of a source, with the files before it. -/
structure Fed (source : Source) (target : Path) (arguments : List String) (fs : FileSystem)
    (c : Call) : Prop where
  opens : ∃ stream, source.openStream fs = .ok stream
  argv : c.argv = Unpacker.argv target arguments
  before : c.before = fs

/-- What came before the release of a source: the events, the outcome, and the files that the
release finds. -/
inductive Draws (source : Source) (target : Path) (arguments : List String) (fs : FileSystem) :
    List Event → Except Failure Unit → FileSystem → Prop
  /-- The source could not be opened, and no tool was called. -/
  | unopened {e : Failure} (refused : source.openStream fs = .error e) :
    Draws source target arguments fs [] (.error (openFailure target e)) fs
  /-- The stream could not be closed, whatever the tool had come to. -/
  | unclosed {c : Call} {e : Failure} (fed : Fed source target arguments fs c)
      (refused : source.closeStream c.after = .error e) :
    Draws source target arguments fs [.streamOpened, .called c, .streamClosed] (.error e) c.after
  /-- The call of the tool failed, maybe by what it read. -/
  | raised {c : Call} {e : Failure} {mid : FileSystem} (fed : Fed source target arguments fs c)
      (closes : source.closeStream c.after = .ok mid) (outcome : c.outcome = .error e) :
    Draws source target arguments fs [.streamOpened, .called c, .streamClosed] (.error e) mid
  /-- The tool refused. -/
  | refused {c : Call} {r : ToolResult} {mid : FileSystem} (fed : Fed source target arguments fs c)
      (closes : source.closeStream c.after = .ok mid) (outcome : c.outcome = .ok r)
      (bad : r.exitStatus ≠ 0) :
    Draws source target arguments fs [.streamOpened, .called c, .streamClosed]
      (.error (refusal r (callFailure target (argv target arguments) r))) mid
  /-- The tool unpacked. -/
  | unpacked {c : Call} {r : ToolResult} {mid : FileSystem}
      (fed : Fed source target arguments fs c) (closes : source.closeStream c.after = .ok mid)
      (outcome : c.outcome = .ok r) (good : r.exitStatus = 0) :
    Draws source target arguments fs [.streamOpened, .called c, .streamClosed] (.ok ()) mid

/-- The warning of a failure to release a source after an earlier failure. -/
def suppressed (e : Failure) : LogRecord :=
  recordOf "source_cleanup" "warning"
    ("Source cleanup failed after an earlier error: " ++ e.text) none

/-- How unpacking ends by what came before the release and by the outcome of the release: its own
outcome, and the warnings. -/
inductive Closes :
    Except Failure Unit → Except Failure FileSystem → Except Failure Unit → Log → Prop
  /-- The first failure is the outcome, and the release did not fail, or only since the source was
  gone. -/
  | failed {e : Failure} {released : Except Failure FileSystem}
      (quiet : ∀ r, released = .error r → r.SaysGone) : Closes (.error e) released (.error e) []
  /-- The first failure is the outcome, and that of the release is logged. -/
  | failedTwice {e r : Failure} (loud : ¬ r.SaysGone) :
    Closes (.error e) (.error r) (.error e) [suppressed (releaseFailure r)]
  /-- The source was released, or gone. -/
  | done {released : Except Failure FileSystem}
      (quiet : ∀ r, released = .error r → r.SaysGone) : Closes (.ok ()) released (.ok ()) []
  /-- Only the release failed. -/
  | unreleased {r : Failure} (loud : ¬ r.SaysGone) :
    Closes (.ok ()) (.error r) (.error (releaseFailure r)) []

section Parts

variable (runner : Runner σ) (source : Source) (target : Path) (arguments : List String)
  (w : Run σ)

theorem runTar_draws :
    ∃ events, (runTar runner arguments source target w).2.history = w.history ++ events ∧
      Draws source target arguments w.files events (runTar runner arguments source target w).1
        (runTar runner arguments source target w).2.files := by
  rcases hopen : source.openStream w.files with e | stream
  · rw [runTar_unopened runner source target arguments w hopen]
    exact ⟨[], (List.append_nil _).symm, .unopened hopen⟩
  obtain ⟨c, hargv, hbefore, hafter, hhistory, hout⟩ :=
    runTar_opened runner source target arguments w hopen
  have hfed : Fed source target arguments w.files c := ⟨⟨stream, hopen⟩, hargv, hbefore⟩
  refine ⟨_, hhistory, ?_⟩
  rw [hafter, hout, tarOutcome, closing]
  rcases hclose : source.closeStream c.after with e | mid
  · rw [Action.change_apply_error hclose]
    exact .unclosed hfed hclose
  · rw [Action.change_apply_ok hclose]
    rcases hanswer : c.outcome with e | r
    · exact .raised hfed hclose hanswer
    · simp only [Except.bind, tarVerdict]
      split_ifs with hok
      · exact .unpacked hfed hclose hanswer (by simpa [ToolResult.ok] using hok)
      · exact .refused hfed hclose hanswer (by simpa [ToolResult.ok] using hok)

/-- A release that fails with an ordinary failure fails for good unless the source was gone. -/
theorem release_fst (ordinary : ∀ e, source.release w.files = .error e → e.isOrdinary = true) :
    ((release source w).1 = .ok () ∧ ∀ r, source.release w.files = .error r → r.SaysGone) ∨
      ∃ r, source.release w.files = .error r ∧ ¬ r.SaysGone ∧
        (release source w).1 = .error (releaseFailure r) := by
  rw [(release_eq source w).1]
  rcases hreleased : source.release w.files with r | fs
  · rw [Action.change_apply_error hreleased]
    simp only [releaseVerdict, ordinary r hreleased, Bool.not_true, Bool.false_eq_true, if_false]
    by_cases hgone : r.isGone = true
    · refine .inl ⟨by simp [hgone], fun r' hr' => ?_⟩
      obtain rfl := Except.error.inj hr'
      exact Failure.isGone_eq_true.1 hgone
    · refine .inr ⟨r, rfl, mt Failure.isGone_eq_true.2 hgone, ?_⟩
      simp [hgone]
  · rw [Action.change_apply_ok hreleased]
    exact .inl ⟨rfl, fun r hr => nomatch hr⟩

/-- Before and while the source is released nothing is logged as a warning. -/
theorem runTar_release_gains :
    Log.Gains (·.level = "warning") [] w.log
      (release source (runTar runner arguments source target w).2).2.log :=
  (Log.Gains.of_writes (runTar_writes runner (fun _ _ => rfl) arguments source target) w).trans_nil
    (.of_writes (release_writes (fun _ _ => rfl) source) _)

end Parts

/-- Unpacking with the tool: what is opened is closed, and then the source is released, once. The
first failure is the outcome. -/
theorem unpackTar_closes (runner : Runner σ) (source : Source) (target : Path)
    (arguments : List String) (w : Run σ)
    (ordinary : ∀ fs e, source.release fs = .error e → e.isOrdinary = true) :
    ∃ events held mid warnings,
      (unpack runner (.tar arguments) source target w).2.history =
          w.history ++ (events ++ [.sourceReleased]) ∧
        Draws source target arguments w.files events held mid ∧
        Closes held (source.release mid) (unpack runner (.tar arguments) source target w).1
          warnings ∧
        Log.Gains (·.level = "warning") warnings w.log
          (unpack runner (.tar arguments) source target w).2.log := by
  obtain ⟨events, hevents, hdraws⟩ := runTar_draws runner source target arguments w
  obtain ⟨ho, -, hhistory⟩ := releaseAfter_eq (release source) recordSuppressed
    (fun _ => logs_record _) (runTar runner arguments source target) w
  have hreleased := (release_eq source (runTar runner arguments source target w).2).2.2
  have hlog := runTar_release_gains runner source target arguments w
  have hheard : (unpack runner (.tar arguments) source target w).2.log = _ :=
    settle_log (release source) suppressed (runTar runner arguments source target) w
  suffices hcloses : ∃ warnings, Closes (runTar runner arguments source target w).1
      (source.release (runTar runner arguments source target w).2.files)
      (unpack runner (.tar arguments) source target w).1 warnings ∧
      Log.Gains (·.level = "warning") warnings w.log
        (unpack runner (.tar arguments) source target w).2.log by
    obtain ⟨warnings, hcloses, hgains⟩ := hcloses
    refine ⟨events, _, _, warnings, ?_, hdraws, hcloses, hgains⟩
    exact hhistory.trans (by rw [hreleased, hevents, List.append_assoc])
  rw [hheard, show (unpack runner (.tar arguments) source target w).1 = _ from ho]
  rcases release_fst source (runTar runner arguments source target w).2 (ordinary _) with
    ⟨hquiet, hgone⟩ | ⟨r, hr, hloud, hfailed⟩
  · rw [hquiet]
    rcases (runTar runner arguments source target w).1 with e | _
    · exact ⟨[], .failed hgone, hlog.trans_nil ⟨[], rfl, rfl⟩⟩
    · exact ⟨[], .done hgone, hlog.trans_nil ⟨[], rfl, rfl⟩⟩
  · rw [hfailed, hr]
    rcases (runTar runner arguments source target w).1 with e | _
    · exact ⟨_, .failedTwice hloud, hlog.trans ⟨[_], rfl, rfl⟩⟩
    · exact ⟨[], .unreleased hloud, hlog.trans_nil ⟨[], rfl, rfl⟩⟩

/-- A runner whose calls all succeed. -/
def agreeingRunner : Runner Unit where
  run argv _ s := (⟨.ok { argv, exitStatus := 0 }, none⟩, s)
  ensureAvailable _ _ := .ok ()

/-- A runner on a host that has no tools. -/
def toolless : Runner Unit where
  run argv _ s :=
    (⟨.error ⟨.refusal (.ofNumber 2 "No such file or directory" (argv.take 1)), []⟩, none⟩, s)
  ensureAvailable _ _ := .ok ()

/-- A source whose archive can be read but not removed. -/
def keptSource : Source where
  openStream _ := .ok ⟨[[0]], none⟩
  release _ := .error ⟨.refusal (.ofNumber 13 "Permission denied" ["archive"]), []⟩

theorem unpackTar_closes_keptSource :
    let w : Run Unit := { files := FileSystem.bare [], runner := () }
    let unpacked := unpack toolless (.tar []) keptSource (.ofText "/guest") w
    (∀ fs e, keptSource.release fs = .error e → e.isOrdinary = true) ∧
      (∃ events held mid warnings,
        unpacked.2.history = w.history ++ (events ++ [.sourceReleased]) ∧
          Draws keptSource (.ofText "/guest") [] w.files events held mid ∧
          Closes held (keptSource.release mid) unpacked.1 warnings ∧
          Log.Gains (·.level = "warning") warnings w.log unpacked.2.log) ∧
      unpacked.1 = .error ⟨.refusal (.ofNumber 2 "No such file or directory" ["tar"]), []⟩ ∧
      (unpacked.2.log.ofLevel "warning").length = 1 := by
  have ordinary : ∀ fs e, keptSource.release fs = .error e → e.isOrdinary = true := by
    rintro fs e he
    obtain rfl := Except.error.inj he
    rfl
  exact ⟨ordinary, unpackTar_closes toolless keptSource _ [] _ ordinary, rfl, rfl⟩

/-- The failure of a disk. -/
def brokenDisk : Failure :=
  ⟨.refusal (.ofNumber 5 "Input/output error" []), []⟩

/-- A source whose archive cannot be read. -/
def unreadableSource : Source where
  openStream _ := .error brokenDisk
  release := .ok

/-- A source whose stream cannot be closed. -/
def unclosableSource : Source where
  openStream _ := .ok ⟨[[0]], none⟩
  release := .ok
  closeStream _ := .error brokenDisk

/-- The refusal to open a source is only the cause of what unpacking it fails with, and a stream
that cannot be closed makes it fail though the tool unpacked and the source was released. -/
theorem unpackTar_brokenDisk :
    let w : Run Unit := { files := FileSystem.bare [], runner := () }
    let unread := unpack agreeingRunner (.tar []) unreadableSource (.ofText "/guest") w
    let unclosed := unpack agreeingRunner (.tar []) unclosableSource (.ofText "/guest") w
    (unreadableSource.openStream w.files = .error brokenDisk ∧ unread.1 ≠ .error brokenDisk ∧
        unread.1 = .error (openFailure (.ofText "/guest") brokenDisk)) ∧
      (∃ c r, unclosed.2.history = [.streamOpened, .called c, .streamClosed, .sourceReleased] ∧
        c.outcome = .ok r ∧ r.exitStatus = 0) ∧
      unclosed.1 = .error brokenDisk := by
  have hcaused : openFailure (.ofText "/guest") brokenDisk ≠ brokenDisk := by decide +kernel
  exact ⟨⟨rfl, fun h => hcaused (Except.error.inj h), rfl⟩, ⟨_, _, rfl, rfl, rfl⟩, rfl⟩

end Unpacker

end GuestImage
