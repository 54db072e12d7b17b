import GuestImage.Proofs.Course
import GuestImage.Proofs.Moves

/-!
# The sequence of calls

The calls of a run come in one order (`Sequence`): the file of the image is formatted, mounted on a
fresh directory, unpacked into and unmounted, attached to a device, checked, asked for its least
size, resized to it and detached. The run stops at the first move that fails, but what was mounted
is unmounted, and what was attached is detached in either case.

Moves are told from the files that are there before them, so that one that fails without a call is
a step that fails on these files.
-/

namespace GuestImage

variable {σ : Type}

namespace Unpacker

/-- The release of a source after it was unpacked into an image. -/
def cleaning (image : Image) (source : Source) (fs : FileSystem) : Move :=
  .releasing none ((releaseVerdict (Action.change source.release fs).1).mapError
    (Population.extractionFailure image))

/-- A move is a release of a source. -/
def Cleans (image : Image) (source : Source) (s : Move) : Prop :=
  ∃ fs, s = cleaning image source fs

/-- The moves that unpack a source into an image that is mounted on a directory, from the files
before them, and the files after them. -/
inductive Moves (image : Image) (source : Source) (d : Path) (fs : FileSystem) :
    Unpacker → List Move → FileSystem → Prop
  | unopened {arguments : List String} {e : Failure} (refused : source.openStream fs = .error e) :
    Moves image source d fs (.tar arguments)
      [.failing (Population.extractionFailure image (openFailure d e)), cleaning image source fs]
      (Action.change source.release fs).2
  | opened {arguments : List String} {stream : ByteStream} {t : Call}
      (opens : source.openStream fs = .ok stream) (argv : t.argv = argv d arguments)
      (before : t.before = fs) :
    Moves image source d fs (.tar arguments)
      [.calling t ((tarOutcome source d arguments t).mapError (Population.extractionFailure image)),
        cleaning image source (closing source t).2]
      (Action.change source.release (closing source t).2).2
  | steps (unpack : Source → Path → FileAction Unit)
      (records : Source → Path → FileSystem → Log) :
    Moves image source d fs (.steps unpack records)
      [.quiet ((unpack source d fs).1.mapError (Population.extractionFailure image))]
      (unpack source d fs).2

theorem extractionFailure_isOrdinary (image : Image) (e : Failure) :
    (Population.extractionFailure image e).isOrdinary = e.isOrdinary := by
  rcases e with ⟨fault, causes⟩
  cases fault with
  | _ => rfl

theorem extractionFailure_escaped (image : Image) (e : Failure) :
    Population.extractionFailure image e.escaped =
      (Population.extractionFailure image e).escaped := by
  rcases e with ⟨fault, causes⟩
  cases fault with
  | internal f =>
    by_cases h : f.endsIteration = true
    · simp [Failure.escaped, Failure.caused, Population.extractionFailure, Failure.annotate, h]
    · simp [Failure.escaped, Population.extractionFailure, Failure.annotate, h]
  | _ => rfl

theorem firstError_mapError {α : Type} {f : Failure → Failure}
    (hf : ∀ e, (f e).isOrdinary = e.isOrdinary) (hescaped : ∀ e, f e.escaped = (f e).escaped)
    (o : Except Failure α) (released : Except Failure Unit) :
    (firstError o released).mapError f = firstError (o.mapError f) (released.mapError f) := by
  rcases o with e | a <;> rcases released with r | _
  · by_cases hr : r.isOrdinary = true
    · simp [firstError, Except.mapError, hf, hr]
    · simp [firstError, Except.mapError, hf, hr]
  · rfl
  · simp [firstError, Except.mapError, hescaped]
  · rfl

theorem Unpacks.moves (image : Image) {source : Source} {d : Path} {unpacker : Unpacker}
    {fs fs' : FileSystem} {events : List Event} {o : Except Failure Unit}
    (h : Unpacks source d fs unpacker events o fs') :
    ∃ moves, Moves image source d fs unpacker moves fs' ∧
      Accounts moves events (o.mapError (Population.extractionFailure image)) := by
  have hordinary := extractionFailure_isOrdinary image
  have hescaped := extractionFailure_escaped image
  cases h with
  | @unopened arguments e refused =>
    refine ⟨_, .unopened refused, ?_⟩
    rw [firstError_mapError hordinary hescaped]
    exact accounts_failing.release.of_called rfl
  | @opened arguments stream c opens argv before =>
    refine ⟨_, .opened opens argv before, ?_⟩
    rw [firstError_mapError hordinary hescaped]
    exact accounts_calling.release.of_called rfl
  | steps unpack records => exact ⟨_, .steps unpack records, accounts_quiet⟩

end Unpacker

namespace Population

/-- The moves on an image that is mounted on a directory: where the source was unpacked, the name
servers are set up. -/
inductive FillMoves (unpacker : Unpacker) (image : Image) (source : Source) (d : Path)
    (fs : FileSystem) : List Move → Prop
  | refused {moves : List Move} {fs' : FileSystem}
      (unpacks : Unpacker.Moves image source d fs unpacker moves fs')
      (failed : survivor moves ≠ none) :
    FillMoves unpacker image source d fs moves
  | unpacked {moves : List Move} {fs' : FileSystem}
      (unpacks : Unpacker.Moves image source d fs unpacker moves fs')
      (sound : survivor moves = none) :
    FillMoves unpacker image source d fs
      (moves ++ [.quiet ((NameResolution.ensure d fs').1.mapError (nameServersFailure image))])

/-- The moves that populate an image, on a fresh directory. -/
inductive Moves (unpacker : Unpacker) (dir : Path) (image : Image) (source : Source)
    (fs : FileSystem) : List Move → Prop
  | unmade {σ : Type} {w : Run σ} {e : Failure} (files : w.files = fs)
      (refused : (makeMountpoint image dir w).1 = .error e) :
    Moves unpacker dir image source fs [.failing e]
  | unmounted {d : Path} {m : Call} {e : Failure}
      (fresh : Fresh dir fs d m.before) (argv : m.argv = mountArgv image d)
      (refused : m.outcome.bind (mountVerdict image d) = .error e) :
    Moves unpacker dir image source fs [.calling m (m.outcome.bind (mountVerdict image d))]
  | mounted {d : Path} {m u : Call} {moves : List Move}
      (fresh : Fresh dir fs d m.before) (argv : m.argv = mountArgv image d)
      (accepted : m.outcome.bind (mountVerdict image d) = .ok ())
      (fills : FillMoves unpacker image source d m.after moves)
      (release : u.argv = ["umount", d.text]) :
    Moves unpacker dir image source fs
      (.calling m (m.outcome.bind (mountVerdict image d)) ::
        (moves ++ [.releasing (some u) (u.outcome.bind (unmountVerdict image d))]))

theorem Fills.moves {unpacker : Unpacker} {image : Image} {source : Source} {d : Path}
    {fs : FileSystem} {events : List Event} {o : Except Failure Bool}
    (h : Fills unpacker image source d fs events o) :
    ∃ moves, FillMoves unpacker image source d fs moves ∧ Accounts moves events o := by
  cases h with
  | @refused e _ unpacks =>
    obtain ⟨moves, hmoves, haccounts⟩ := unpacks.moves image
    have haccounts : Accounts moves events
        (.error (extractionFailure image e) : Except Failure Unit) := haccounts
    exact ⟨moves, .refused hmoves haccounts.failed, haccounts.of_failure rfl⟩
  | @unpacked fs' unpacks =>
    obtain ⟨moves, hmoves, haccounts⟩ := unpacks.moves image
    have haccounts : Accounts moves events (.ok () : Except Failure Unit) := haccounts
    have hall := haccounts.append
      (accounts_quiet (o := (NameResolution.ensure d fs').1.mapError (nameServersFailure image)))
    rw [List.append_nil] at hall
    exact ⟨_, .unpacked hmoves haccounts.left, hall⟩

theorem Populates.moves {unpacker : Unpacker} {dir : Path} {image : Image} {source : Source}
    {fs : FileSystem} {events : List Event} {o : Except Failure Bool}
    (h : Populates unpacker dir image source fs events o) :
    ∃ moves, Moves unpacker dir image source fs moves ∧ Accounts moves events o := by
  cases h with
  | unmade files refused => exact ⟨_, .unmade files refused, accounts_failing⟩
  | @unmounted d m e fresh argv refused =>
    refine ⟨_, .unmounted fresh argv refused, ?_⟩
    exact (accounts_refused refused).of_called rfl
  | @mounted d m u events outcome fresh argv accepted fills release =>
    obtain ⟨moves, hmoves, haccounts⟩ := fills.moves
    refine ⟨_, .mounted fresh argv accepted hmoves release, ?_⟩
    have hfilled : Accounts (.calling m (m.outcome.bind (mountVerdict image d)) :: moves)
        (.called m :: events) outcome :=
      (accounts_accepted (b := ()) accepted).append haccounts
    have hreleased : Accounts _ (.called m :: events ++ [.called u])
        (firstError outcome (u.outcome.bind (unmountVerdict image d))) :=
      hfilled.release_calling
    refine hreleased.of_called ?_
    -- the events of the directory are no calls
    split
    · simp [called_append, called_cons, Event.call?]
    · simp [called_append, called_cons, Event.call?]

end Population

namespace Shrinking

/-- The moves that shrink the file system on a device, and what they come to. -/
inductive DeviceMoves (image : Image) (device : LoopDevice) :
    List Move → Except Failure Nat → Prop
  | unchecked {k : Call} {e : Failure} (check : k.argv = ["e2fsck", "-p", "-f", device.path])
      (refused : k.outcome.bind checkVerdict = .error e) :
    DeviceMoves image device [.calling k (k.outcome.bind checkVerdict)] (.error e)
  | unestimated {k s : Call} {e : Failure} (check : k.argv = ["e2fsck", "-p", "-f", device.path])
      (checked : k.outcome.bind checkVerdict = .ok ())
      (estimate : s.argv = ["resize2fs", "-P", device.path])
      (refused : s.outcome.bind (estimateVerdict image device) = .error e) :
    DeviceMoves image device
      [.calling k (k.outcome.bind checkVerdict),
        .calling s (s.outcome.bind (estimateVerdict image device))] (.error e)
  | resized {k s z : Call} {blocks : Nat} {text : String}
      (check : k.argv = ["e2fsck", "-p", "-f", device.path])
      (checked : k.outcome.bind checkVerdict = .ok ())
      (estimate : s.argv = ["resize2fs", "-P", device.path])
      (estimated : s.outcome.bind (estimateVerdict image device) = .ok blocks)
      (written : decimal blocks = .ok text) (resize : z.argv = ["resize2fs", device.path, text]) :
    DeviceMoves image device
      [.calling k (k.outcome.bind checkVerdict),
        .calling s (s.outcome.bind (estimateVerdict image device)),
        .calling z (z.outcome.bind (resizeVerdict image device text))]
      ((z.outcome.bind (resizeVerdict image device text)).map fun _ => blocks)

/-- The moves from the attaching of an image to its detaching, what they come to, and the files
after them. -/
inductive AttachedMoves (image : Image) :
    List Move → Except Failure Nat → FileSystem → Prop
  | unattached {a : Call} {e : Failure}
      (attach : a.argv = LoopDevice.attachArgv image.fsPath.text false)
      (refused : a.outcome.bind
        (LoopDevice.attachVerdict image.fsPath.text false (some image.uid)) = .error e) :
    AttachedMoves image [.calling a (.error e.escaped : Except Failure LoopDevice)]
      (.error e.escaped) a.after
  | attached {a x : Call} {device : LoopDevice} {moves : List Move} {o : Except Failure Nat}
      (attach : a.argv = LoopDevice.attachArgv image.fsPath.text false)
      (attached : a.outcome.bind
        (LoopDevice.attachVerdict image.fsPath.text false (some image.uid)) = .ok device)
      (shrinks : DeviceMoves image device moves o)
      (release : x.argv = ["losetup", "--detach", device.path]) :
    AttachedMoves image
      (.calling a (a.outcome.bind
          (LoopDevice.attachVerdict image.fsPath.text false (some image.uid))) ::
        (moves ++ [.releasing (some x)
          (x.outcome.bind (LoopDevice.detachVerdict device (some image.uid)))]))
      (firstError o (x.outcome.bind (LoopDevice.detachVerdict device (some image.uid)))) x.after

/-- The moves that shrink an image: where the device was shrunk and detached, the file is cut to as
many blocks as the file system was shrunk to. -/
inductive Moves (image : Image) : List Move → Prop
  | unshrunk {moves : List Move} {e : Failure} {fs : FileSystem}
      (attaches : AttachedMoves image moves (.error e) fs) :
    Moves image moves
  | shrunk {σ : Type} {w : Run σ} {moves : List Move} {blocks : Nat}
      (attaches : AttachedMoves image moves (.ok blocks) w.files) :
    Moves image (moves ++ [.quiet (truncate image { blocks } w).1])

theorem ShrinksDevice.moves {image : Image} {device : LoopDevice} {events : List Event}
    {o : Except Failure Nat} (h : ShrinksDevice image device events o) :
    ∃ moves, DeviceMoves image device moves o ∧ Accounts moves events o := by
  cases h with
  | @unchecked k e check refused =>
    exact ⟨_, .unchecked check refused, accounts_refused refused⟩
  | @unestimated k s e check checked estimate refused =>
    refine ⟨_, .unestimated check checked estimate refused, ?_⟩
    exact (accounts_accepted (b := ()) checked).append (accounts_refused refused)
  | @resized k s z blocks text check checked estimate estimated written resize =>
    refine ⟨_, .resized check checked estimate estimated written resize, ?_⟩
    have hestimated := accounts_accepted (c := s) (b := blocks) estimated
    have hresized := hestimated.append
      (accounts_calling (c := z) (o := z.outcome.bind (resizeVerdict image device text)))
    exact ((accounts_accepted (b := ()) checked).append hresized).of_failure (failure?_map _)

theorem ShrinksDevice.attachedMoves {image : Image} {a x : Call} {device : LoopDevice}
    {events : List Event} {o : Except Failure Nat} (shrinks : ShrinksDevice image device events o)
    (attach : a.argv = LoopDevice.attachArgv image.fsPath.text false)
    (attached : a.outcome.bind
      (LoopDevice.attachVerdict image.fsPath.text false (some image.uid)) = .ok device)
    (release : x.argv = ["losetup", "--detach", device.path]) :
    ∃ moves, AttachedMoves image moves
        (firstError o (x.outcome.bind (LoopDevice.detachVerdict device (some image.uid)))) x.after ∧
      Accounts moves (.called a :: .deviceAttached device.path :: (events ++ [.called x]))
        (firstError o
          (x.outcome.bind (LoopDevice.detachVerdict device (some image.uid)))) := by
  obtain ⟨moves, hmoves, haccounts⟩ := shrinks.moves
  refine ⟨_, .attached attach attached hmoves release, ?_⟩
  have hheld := (accounts_accepted (c := a) (b := ()) attached).append haccounts
  exact hheld.release_calling.of_called rfl

theorem Shrinks.moves {image : Image} {events : List Event} {o : Except Failure MinimumSize}
    {fs : FileSystem} (h : Shrinks image events o fs) :
    ∃ moves, Moves image moves ∧ Accounts moves events o := by
  cases h with
  | unattached attach refused =>
    exact ⟨_, .unshrunk (.unattached attach refused), accounts_refused rfl⟩
  | @unshrunk a x device inside held e attach attached shrinks release refused =>
    obtain ⟨moves, hmoves, haccounts⟩ := shrinks.attachedMoves attach attached release
    rw [refused] at hmoves haccounts
    exact ⟨moves, .unshrunk hmoves, haccounts.of_failure rfl⟩
  | @shrunk _ w a x device inside held blocks attach attached shrinks release released files =>
    obtain ⟨moves, hmoves, haccounts⟩ := shrinks.attachedMoves attach attached release
    rw [released] at hmoves haccounts
    have hall := haccounts.append (accounts_quiet (o := (truncate image { blocks } w).1))
    rw [List.append_nil] at hall
    rw [← files] at hmoves
    exact ⟨_, .shrunk hmoves, hall.of_failure (failure?_map _)⟩

end Shrinking

namespace Provisioning

/-- The moves of the stages that provision an image, from the files before them. -/
inductive Sequence (settings : Settings) (unpacker : Unpacker) (image : Image) (source : Source)
    (dir : Path) (fs : FileSystem) : List Move → Prop
  | unmade {σ : Type} {w : Run σ} {e : Failure} (files : w.files = fs)
      (refused : (Allocation.allocate image
        ((SizePolicy.ofSettings settings).planned image.size) w).1 = .error e) :
    Sequence settings unpacker image source dir fs [.failing e]
  | unformatted {f : Call} {e : Failure}
      (formats : Allocation.Formats image
        ((SizePolicy.ofSettings settings).planned image.size) fs f)
      (refused : f.outcome.bind (Allocation.formatVerdict image) = .error e) :
    Sequence settings unpacker image source dir fs
      [.calling f (f.outcome.bind (Allocation.formatVerdict image))]
  | unpopulated {f : Call} {path : Path} {moves : List Move}
      (formats : Allocation.Formats image
        ((SizePolicy.ofSettings settings).planned image.size) fs f)
      (formatted : f.outcome.bind (Allocation.formatVerdict image) = .ok path)
      (populates : Population.Moves unpacker dir image source f.after moves)
      (failed : survivor moves ≠ none) :
    Sequence settings unpacker image source dir fs
      (.calling f (f.outcome.bind (Allocation.formatVerdict image)) :: moves)
  | populated {f : Call} {path : Path} {moves more : List Move}
      (formats : Allocation.Formats image
        ((SizePolicy.ofSettings settings).planned image.size) fs f)
      (formatted : f.outcome.bind (Allocation.formatVerdict image) = .ok path)
      (populates : Population.Moves unpacker dir image source f.after moves)
      (sound : survivor moves = none) (shrinks : Shrinking.Moves image more) :
    Sequence settings unpacker image source dir fs
      (.calling f (f.outcome.bind (Allocation.formatVerdict image)) :: (moves ++ more))

theorem Stages.moves {settings : Settings} {unpacker : Unpacker} {image : Image} {source : Source}
    {dir : Path} {fs fs' : FileSystem} {events : List Event} {o : Except Failure Report}
    (h : Stages settings unpacker image source dir fs events o fs') :
    ∃ moves, Sequence settings unpacker image source dir fs moves ∧ Accounts moves events o := by
  cases h with
  | unbuilt builds =>
    rcases builds.of_error with ⟨rfl, σ, w, files, refused⟩ | ⟨f, rfl, formats, refused⟩
    · exact ⟨_, .unmade files refused, accounts_failing⟩
    · exact ⟨_, .unformatted formats refused, accounts_refused refused⟩
  | unpopulated builds populates =>
    obtain ⟨f, rfl, formats, formatted, rfl⟩ := builds.of_ok
    obtain ⟨moves, hmoves, haccounts⟩ := populates.moves
    have hall := (accounts_accepted (c := f) (b := ()) formatted).append haccounts
    exact ⟨_, .unpopulated formats formatted hmoves haccounts.failed, hall.of_failure rfl⟩
  | shrunk builds populates shrinks =>
    obtain ⟨f, rfl, formats, formatted, rfl⟩ := builds.of_ok
    obtain ⟨moves, hmoves, haccounts⟩ := populates.moves
    obtain ⟨more, hmore, hshrunk⟩ := shrinks.moves
    have hall := (accounts_accepted (c := f) (b := ()) formatted).append (haccounts.append hshrunk)
    exact ⟨_, .populated formats formatted hmoves haccounts.left hmore,
      hall.of_failure (failure?_map _)⟩

/-- The moves of a run: those of its stages, unless the tools that it checks for are not there. -/
inductive RunMoves (runner : Runner σ) (settings : Settings) (unpacker : Option Unpacker)
    (preflight : Bool) (image : Image) (source : Source) (dir : Path) (fs : FileSystem) :
    List Move → Prop
  | unready {s : σ} {e : Failure} (checks : preflight = true)
      (refused : runner.ensureAvailable (toolsFor unpacker) s = .error e) :
    RunMoves runner settings unpacker preflight image source dir fs [.failing e]
  | ready {moves : List Move}
      (sequence : Sequence settings (unpacker.getD (.tar [])) image source dir fs moves) :
    RunMoves runner settings unpacker preflight image source dir fs moves

theorem Provisions.moves {runner : Runner σ} {settings : Settings} {unpacker : Option Unpacker}
    {preflight : Bool} {image : Image} {source : Source} {dir : Path} {fs fs' : FileSystem}
    {events : List Event} {o : Except Failure Report}
    (h : Provisions runner settings unpacker preflight image source dir fs events o fs') :
    ∃ moves o', RunMoves runner settings unpacker preflight image source dir fs moves ∧
      Accounts moves events o' ∧ Reports o' o := by
  have hchecked : called (checkedEvents unpacker preflight) = [] := by
    cases preflight with
    | false => rfl
    | true => rfl
  cases h with
  | @unready s e checks refused =>
    have haccounts : Accounts [.failing e] [] (.error e : Except Failure Report) := accounts_failing
    exact ⟨_, _, .unready checks refused, haccounts.of_called hchecked,
      .inl ⟨e, e, rfl, rfl, .inl rfl⟩⟩
  | @failed events e e' _ stages named =>
    obtain ⟨moves, hmoves, haccounts⟩ := stages.moves
    refine ⟨moves, _, .ready hmoves, haccounts.of_called ?_, .inl ⟨e, e', rfl, rfl, named⟩⟩
    rw [called_append, hchecked, List.nil_append]
  | @provisioned events report _ stages =>
    obtain ⟨moves, hmoves, haccounts⟩ := stages.moves
    refine ⟨moves, _, .ready hmoves, haccounts.of_called ?_, .inr ⟨report, rfl, rfl⟩⟩
    rw [called_append, hchecked, List.nil_append]

end Provisioning

end GuestImage
