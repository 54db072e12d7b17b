import GuestImage.Proofs.Course
import GuestImage.Proofs.Lookup
import Mathlib.Control.Monad.Basic

/-!
# Sizes of the file of an image

The file of an image is made anew, with as many zeros in it as were planned, before it is formatted
(`allocateFile_ok`), and in the end it is cut to its least size (`truncateFile_ok`). Whatever the
tools do to the files in between, a run that reports sizes leaves the file with the size it reports
(`provision_sizes`).
-/

namespace GuestImage

open FileSystem

section Files

variable {fs fs' : FileSystem} {p : Path} {goal : Goal} {place : Place}

theorem lookup_insert_file {route : Route} {e : Option Entry} {slashed : Bool}
    (hgoal : goal ≠ .entry) (he : ∀ old, e = some old → ∃ mode c, old = .file mode c)
    (h : fs.lookup [] fs.workDir route goal = .ok ⟨place, e, slashed⟩) (mode : Nat)
    (content : Content) :
    (fs.insert place (.file mode content)).lookup []
        (fs.insert place (.file mode content)).workDir route .object =
      .ok ⟨place, some (.file mode content), slashed⟩ :=
  comesTo_insert_file
    (x := ⟨maxLinks, route.slashed, if route.fromTop then [] else fs.workDir, route.steps⟩)
    hgoal he h mode content

theorem exists_of_openFile {forWriting : Bool} {content : Content}
    (h : fs.openFile p forWriting = .ok (place, content)) :
    ∃ mode, fs.locate p.text p.route .object = .ok ⟨place, some (.file mode content), false⟩ := by
  unfold openFile at h
  rcases hlocate : fs.locate p.text p.route .object with e | t
  · rw [hlocate] at h
    cases h
  rw [hlocate] at h
  simp only [bind, Except.bind] at h
  rcases hheld : t.held with o | e
  · rw [hheld] at h
    cases h
  rw [hheld] at h
  dsimp only at h
  split_ifs at h
  obtain ⟨place', entry, slashed⟩ := t
  obtain rfl : entry = some e := entry_of_held hheld
  cases e with
  | directory => cases h
  | link => cases h
  | file mode c =>
    obtain ⟨rfl, rfl⟩ := Prod.mk.inj (Except.ok.inj h)
    refine ⟨mode, ?_⟩
    -- a path that asks for a directory does not lead to a file
    cases slashed with
    | false => rfl
    | true => cases hheld

theorem exists_of_resizeFile {size : Int} {mode : Nat} {content : Content}
    (hget : fs.get? place = some (.file mode content)) (h : fs.resizeFile place size = .ok fs') :
    0 ≤ size ∧ fs' = fs.insert place (.file (writtenMode mode) (content.resize size.toNat)) := by
  unfold resizeFile at h
  split_ifs at h with hrange hneg
  rw [hget] at h
  exact ⟨by omega, (Except.ok.inj h).symm⟩

theorem locate_insert_file {text : String} {route : Route} {e : Option Entry} {slashed : Bool}
    (hgoal : goal ≠ .entry) (he : ∀ old, e = some old → ∃ mode c, old = .file mode c)
    (h : fs.locate text route goal = .ok ⟨place, e, slashed⟩) (mode : Nat) (content : Content) :
    (fs.insert place (.file mode content)).locate text route .object =
      .ok ⟨place, some (.file mode content), slashed⟩ := by
  have hlookup := lookup_insert_file hgoal he (lookup_of_locateNamed h) mode content
  unfold locate locateNamed at h ⊢
  split_ifs at h ⊢
  rw [hlookup]
  rfl

theorem entryAt_of_locate {e : Entry}
    (h : fs.locate p.text p.route goal = .ok ⟨place, some e, false⟩) :
    fs.entryAt p goal = .ok e := by
  unfold entryAt find
  rw [h]
  rfl

theorem truncateFile_ok {image : Image} {size : Int}
    (h : (Shrinking.truncateFile image size fs).1 = .ok ()) :
    0 ≤ size ∧ ∃ mode content,
      (Shrinking.truncateFile image size fs).2.entryAt image.fsPath .object =
        .ok (.file mode content) ∧ content.size = size.toNat := by
  unfold Shrinking.truncateFile at h ⊢
  rw [Action.bind_apply, Action.query_apply] at h ⊢
  rcases hopen : fs.openFile image.fsPath true with e | ⟨place, content⟩
  · rw [hopen] at h
    cases h
  rw [hopen] at h
  dsimp only at h ⊢
  obtain ⟨mode, hlocate⟩ := exists_of_openFile hopen
  rcases hresize : fs.resizeFile place size with e | fs'
  · rw [Action.change_apply_error hresize] at h
    cases h
  rw [Action.change_apply_ok hresize]
  obtain ⟨hsize, rfl⟩ := exists_of_resizeFile
    (get?_of_lookup (lookup_of_locateNamed hlocate)) hresize
  refine ⟨hsize, _, _, entryAt_of_locate (locate_insert_file (by simp) ?_ hlocate _ _), ?_⟩
  · intro old hold
    exact ⟨_, _, (Option.some.inj hold).symm⟩
  · exact Content.size_resize _ _

theorem exists_of_create {p : Path} (h : fs.create p = .ok (place, fs')) :
    ∃ mode e slashed, fs.locate p.text p.route .newFile = .ok ⟨place, e, slashed⟩ ∧
      (∀ old, e = some old → ∃ mode c, old = .file mode c) ∧
      fs' = fs.insert place (.file mode .empty) := by
  unfold create createAt at h
  rcases hlocate : fs.locate p.text p.route .newFile with e | ⟨q, entry, slashed⟩
  · rw [hlocate] at h
    cases h
  rw [hlocate] at h
  simp only [bind, Except.bind] at h
  split at h
  · split_ifs at h
    obtain ⟨rfl, rfl⟩ := Prod.mk.inj (Except.ok.inj h)
    exact ⟨_, _, _, rfl, by simp, rfl⟩
  · split_ifs at h
    obtain ⟨rfl, rfl⟩ := Prod.mk.inj (Except.ok.inj h)
    refine ⟨_, _, _, rfl, ?_, rfl⟩
    intro old hold
    exact ⟨_, _, (Option.some.inj hold).symm⟩
  · cases h

/-- Making the file of an image leaves it with as many zeros as were asked for, and nothing else. -/
theorem allocateFile_ok {image : Image} {size : Int}
    (h : (Allocation.allocateFile image size fs).1 = .ok ()) :
    0 ≤ size ∧ ∃ t mode content,
      (Allocation.allocateFile image size fs).2.lookup []
          (Allocation.allocateFile image size fs).2.workDir image.fsPath.route .object = .ok t ∧
        t.entry = some (.file mode content) ∧
        content.toList = List.replicate size.toNat 0 := by
  unfold Allocation.allocateFile at h ⊢
  rw [Action.bind_apply] at h ⊢
  generalize FileAction.makeDirectories image.fsPath.parent FileAction.directoryMode fs = made
    at h ⊢
  obtain ⟨_ | _, fs₁⟩ := made
  · cases h
  dsimp only at h ⊢
  rw [Action.bind_apply] at h ⊢
  unfold FileAction.create at h ⊢
  rcases hcreate : fs₁.create image.fsPath with e | ⟨place, fs₂⟩
  · rw [hcreate] at h
    cases h
  rw [hcreate] at h
  dsimp only at h ⊢
  obtain ⟨mode, e, slashed, hlocate, hfile, rfl⟩ := exists_of_create hcreate
  rcases hresize : (fs₁.insert place (.file mode .empty)).resizeFile place size with e | fs₃
  · rw [Action.change_apply_error hresize] at h
    cases h
  rw [Action.change_apply_ok hresize]
  obtain ⟨hsize, rfl⟩ := exists_of_resizeFile (by rw [get?_insert, if_pos rfl]) hresize
  have hmade := lookup_insert_file (by simp) hfile (lookup_of_locateNamed hlocate) mode .empty
  refine ⟨hsize, _, _, _, lookup_insert_file (by simp) ?_ hmade _ _, rfl, ?_⟩
  · intro old hold
    exact ⟨_, _, (Option.some.inj hold).symm⟩
  · exact Content.toList_resize_empty _

end Files

namespace Provisioning

variable {σ : Type}

/-- The floor of sizes by what is given, in gibibytes: an integer between one and a hundred, and ten
for anything else. -/
def floorByGiven : GivenSize → Int
  | .integer gb => if 1 ≤ gb ∧ gb ≤ 100 then gb else 10
  | _ => 10

/-- The sizes that a report tells are those that the calls of the run were about, and the size of
the file in the end. -/
structure TrueSizes (given : GivenSize) (image : Image) (r : Report) (checked events : List Event)
    (fs : FileSystem) : Prop where
  /-- The size that was planned. -/
  planned : r.allocatedBytes =
    max (5 * max image.size 0) (floorByGiven given * 1073741824)
  /-- The file was made of zeros before the first call, which formatted it. -/
  formatted : ∃ f rest t mode content, events = checked ++ .called f :: rest ∧
    f.argv = Allocation.formatArgv image.fsPath.text ∧
    f.before.lookup [] f.before.workDir image.fsPath.route .object = .ok t ∧
    t.entry = some (.file mode content) ∧ (content.size : Int) = r.allocatedBytes ∧
    content.toList = List.replicate content.size 0
  /-- The number of blocks was read from one call and passed to the other. -/
  estimated : ∃ (s z : Call) (device : String) (answer : ToolResult) (blocks : Nat),
    .called s ∈ events ∧ .called z ∈ events ∧ s.argv = ["resize2fs", "-P", device] ∧
    s.outcome = .ok answer ∧ TrailingNumber.read (Shrinking.estimateText answer) = .ok blocks ∧
    r.minimum.blocks = blocks ∧
    z.argv = ["resize2fs", device, String.ofList (Decimal.text blocks)]
  /-- The file has the size that is reported. -/
  final : ∃ mode content, fs.entryAt image.fsPath .object = .ok (.file mode content) ∧
    (content.size : Int) = r.finalBytes
  blocks : r.finalBytes = 4096 * r.minimum.blocks

theorem floorGbOf_ofGiven (given : GivenSize) (privilege : Privilege) :
    SizePolicy.floorGbOf (.ofGiven given privilege) = floorByGiven given := by
  cases given with
  | integer gb =>
    unfold SizePolicy.floorGbOf floorByGiven
    rw [Settings.ofGiven, GivenSize.gb?, Option.filter_some]
    by_cases hrange : 1 ≤ gb ∧ gb ≤ 100
    · rw [if_pos (inRange_iff.2 hrange)]
      exact (if_pos hrange).symm
    · rw [if_neg (mt inRange_iff.1 hrange)]
      exact (if_neg hrange).symm
  | truth => rfl
  | other => rfl

theorem planned_ofSettings (settings : Settings) (nominal : Int) :
    (SizePolicy.ofSettings settings).planned nominal =
      max (5 * max nominal 0) (SizePolicy.floorGbOf settings * 1073741824) := by
  unfold SizePolicy.planned SizePolicy.ofSettings
  rw [Int.mul_comm (max nominal 0)]
  rfl

theorem planned_ofGiven (given : GivenSize) (privilege : Privilege) (nominal : Int) :
    (SizePolicy.ofSettings (.ofGiven given privilege)).planned nominal =
      max (5 * max nominal 0) (floorByGiven given * 1073741824) := by
  rw [planned_ofSettings, floorGbOf_ofGiven]

theorem eq_text_of_decimal {z : Int} {s : String} (h : decimal z = .ok s) :
    s = String.ofList (Decimal.text z) := by
  unfold decimal Decimal.text? at h
  split_ifs at h
  exact (Except.ok.inj h).symm

theorem read_of_estimateVerdict {image : Image} {device : LoopDevice} {answer : ToolResult}
    {blocks : Nat} (h : Shrinking.estimateVerdict image device answer = .ok blocks) :
    TrailingNumber.read (Shrinking.estimateText answer) = .ok blocks := by
  unfold Shrinking.estimateVerdict at h
  split_ifs at h
  split at h
  · cases h
  · rename_i n hread
    rcases hdecimal : decimal n with e | text
    · rw [hdecimal] at h
      cases h
    · rw [hdecimal] at h
      cases h
      exact hread

/-- A run that reports sizes reports those of the file. -/
theorem provision_sizes (runner : Runner σ) (given : GivenSize) (privilege : Privilege)
    (unpacker : Option Unpacker) (preflight : Bool) (image : Image) (source : Source) (dir : Path)
    (w : Run σ) {r : Report}
    (h : (provision runner (.ofGiven given privilege) unpacker preflight image source dir w).1 =
      .ok r) :
    ∃ events,
      (provision runner (.ofGiven given privilege) unpacker preflight image source dir
        w).2.history = w.history ++ events ∧
      TrueSizes given image r (checkedEvents unpacker preflight) events
        (provision runner (.ofGiven given privilege) unpacker preflight image source dir
          w).2.files := by
  obtain ⟨events, hevents, hprovisions⟩ :=
    adds_provisions runner (.ofGiven given privilege) unpacker preflight image source dir w
  refine ⟨events, hevents, ?_⟩
  rw [h] at hprovisions
  generalize (provision runner (.ofGiven given privilege) unpacker preflight image source dir
    w).2.files = fs at hprovisions
  cases hprovisions with
  | provisioned stages =>
  obtain ⟨_, rest, _, path, mid, _, linked, rfl, builds, shrinks, rfl⟩ := stages.of_ok
  obtain ⟨f, rfl, ⟨hallocated, hformat, hbefore⟩, -⟩ := builds.of_ok
  obtain ⟨a, x, device, inside, blocks, rfl, hdevice, rfl, htruncated, rfl⟩ := shrinks.of_ok
  obtain ⟨k, s, z, text, answer, rfl, hs, hanswer, hverdict, hwritten, hz⟩ := hdevice.of_ok
  obtain ⟨hplanned, t, mode, content, hlookup, hentry, hzeros⟩ := allocateFile_ok hallocated
  obtain ⟨hbytes, mode', content', hfile, hsize⟩ := truncateFile_ok htruncated
  have hplan := planned_ofGiven given privilege image.size
  rw [← hbefore] at hlookup
  rw [hplan] at hzeros hplanned ⊢
  have hcontent : (content.size : Int) = max (5 * max image.size 0)
      (floorByGiven given * 1073741824) := by
    rw [← Content.length_toList, hzeros, List.length_replicate]
    exact Int.toNat_of_nonneg hplanned
  refine ⟨rfl, ?_, ?_, ?_, Int.mul_comm _ _⟩
  · refine ⟨f, _, t, mode, content, rfl, hformat, hlookup, hentry, hcontent, ?_⟩
    rw [← Content.length_toList, hzeros, List.length_replicate]
  · exact ⟨s, z, device.path, answer, blocks, by simp, by simp, hs, hanswer,
      read_of_estimateVerdict hverdict, rfl, eq_text_of_decimal hwritten ▸ hz⟩
  · refine ⟨mode', content', hfile, ?_⟩
    rw [hsize]
    exact Int.toNat_of_nonneg hbytes

/-- A runner whose calls all succeed. -/
def workingRunner : Runner Unit where
  run argv _ s :=
    (⟨.ok { argv, exitStatus := 0, stdout := answerOf argv }, none⟩, s)
  ensureAvailable _ _ := .ok ()
where
  /-- What the tools write that are asked something. -/
  answerOf : List String → String
    | "losetup" :: "--find" :: _ => "/dev/loop0\n"
    | ["resize2fs", "-P", _] => "Estimated minimum size of the filesystem: 25600\n"
    | _ => ""

/-- A host with a directory for mountpoints. -/
def workingHost : FileSystem :=
  (FileSystem.bare ["work"]).insert ["tmp", "work"] (.directory 0o755)

/-- An image of three gibibytes. -/
def largeImage : Image :=
  { uid := "guest", objectPath := ⟨.top, [.name "images", .name "guest"]⟩, size := 3 * gibibyte }

theorem provision_largeImage_sizes :
    ∃ events,
      (provision workingRunner (.ofGiven (.integer 12) .none) none true largeImage
        (.ofStream ⟨[], none⟩) Population.temporaryDirectory
        { files := workingHost, runner := () }).2.history = [] ++ events ∧
      TrueSizes (.integer 12) largeImage
        ⟨"guest", largeImage.fsPath, 15 * gibibyte, { blocks := 25600 }, true, 1⟩
        (checkedEvents none true) events
        (provision workingRunner (.ofGiven (.integer 12) .none) none true largeImage
          (.ofStream ⟨[], none⟩) Population.temporaryDirectory
          { files := workingHost, runner := () }).2.files :=
  provision_sizes _ _ _ _ _ _ _ _ _ (by decide +kernel)

end Provisioning

end GuestImage
