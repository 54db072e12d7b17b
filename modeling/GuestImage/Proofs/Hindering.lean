import GuestImage.Allocation
import GuestImage.Shrinking
import Mathlib.Algebra.Group.Int.Defs
import Mathlib.Logic.Basic
import Mathlib.Tactic.SplitIfs

/-!
# What operations on files fail with

The system refuses an operation on files for some obstacle. Only an operation on a path with a zero
character never comes to the system, nor does one that gives a file a size beyond a signed number of
64 bits. So what holds of every refusal (`Covers`) holds of the failures of an operation, as long as
it holds of those two where they can come about.
-/

namespace GuestImage

variable {α β : Type} {P : Failure → Prop}

/-- An outcome that is no failure, or one of a kind. -/
def Fails (P : Failure → Prop) (o : Except Failure α) : Prop :=
  ∀ e, o = .error e → P e

/-- Steps on files that fail only with failures of a kind. -/
def FailsWith (P : Failure → Prop) (act : FileAction α) : Prop :=
  ∀ fs, Fails P (act fs).1

/-- The failure of what is asked for a path with a zero character. -/
def zeroCharacter : Failure :=
  ⟨.badValue "embedded null byte", []⟩

/-- A kind of failures with the refusals among them, and with the failure of asking for the path of
a text. -/
structure Covers (P : Failure → Prop) (text : String) : Prop where
  refusal : ∀ e, e.isRefusal = true → P e
  zero : '\x00' ∈ text.toList → P zeroCharacter

/-- Of what is asked for without a zero character, there are only refusals. -/
theorem covers_of_notMem {text : String} (h : ∀ e, e.isRefusal = true → P e)
    (htext : '\x00' ∉ text.toList) : Covers P text :=
  ⟨h, fun hzero => absurd hzero htext⟩

section Outcomes

theorem fails_ok (a : α) : Fails P (.ok a : Except Failure α) :=
  fun _ h => nomatch h

theorem fails_error {e : Failure} (h : P e) : Fails P (.error e : Except Failure α) :=
  fun _ he => Except.error.inj he ▸ h

theorem Fails.bind {x : Except Failure α} {f : α → Except Failure β} (hx : Fails P x)
    (hf : ∀ a, Fails P (f a)) : Fails P (x >>= f) := by
  cases x with
  | error e => exact fails_error (hx e rfl)
  | ok a => exact hf a

theorem fails_obstacle (h : ∀ e, e.isRefusal = true → P e) (o : Obstacle) (names : List String) :
    Fails P (.error (o.failure names) : Except Failure α) :=
  fails_error (h _ rfl)

end Outcomes

section Texts

theorem mem_intercalate_slash {l : List String} {c : Char} (hc : c ≠ '/') :
    c ∈ ("/".intercalate l).toList ↔ ∃ s ∈ l, c ∈ s.toList := by
  have hslash : c ∉ "/".toList := by simpa using hc
  induction l with
  | nil => simp
  | cons a l ih =>
    cases l with
    | nil => simp
    | cons b l =>
      simp only [String.intercalate_cons_cons, String.toList_append, List.mem_append, hslash,
        or_false, ih, List.mem_cons (b := a), or_and_right, exists_or, exists_eq_left]

/-- The zero characters of a path are those of its names. -/
theorem Path.zero_mem_text {p : Path} :
    '\x00' ∈ p.text.toList ↔ ∃ s ∈ p.steps, '\x00' ∈ s.text.toList := by
  have hanchor : '\x00' ∉ p.anchor.text.toList := by cases p.anchor <;> decide
  unfold Path.text
  split
  · rename_i hempty
    rw [Bool.and_eq_true, List.isEmpty_iff] at hempty
    rw [hempty.2]
    simp
  · rw [String.toList_append, List.mem_append, mem_intercalate_slash (by decide)]
    simp only [hanchor, false_or, List.mem_map, exists_exists_and_eq_and]

theorem Path.zero_mem_text_of_subset {p q : Path} (h : ∀ s ∈ p.steps, s ∈ q.steps)
    (hp : '\x00' ∈ p.text.toList) : '\x00' ∈ q.text.toList := by
  obtain ⟨s, hs, hc⟩ := Path.zero_mem_text.1 hp
  exact Path.zero_mem_text.2 ⟨s, h s hs, hc⟩

theorem Path.zero_mem_joinText {dir path : String}
    (h : '\x00' ∈ (Path.joinText dir path).toList) :
    '\x00' ∈ dir.toList ∨ '\x00' ∈ path.toList := by
  unfold Path.joinText at h
  split_ifs at h
  · exact .inr h
  · simpa using h
  · simpa using h

theorem Path.mem_joinText {dir path : String} {c : Char} (h : c ∈ path.toList) :
    c ∈ (Path.joinText dir path).toList := by
  unfold Path.joinText
  split_ifs
  · exact h
  · simp [h]
  · simp [h]

theorem Covers.of_subset {p q : Path} (h : ∀ s ∈ p.steps, s ∈ q.steps) (hq : Covers P q.text) :
    Covers P p.text :=
  ⟨hq.refusal, fun hp => hq.zero (Path.zero_mem_text_of_subset h hp)⟩

end Texts

namespace FileSystem

variable (fs : FileSystem) {p : Path}

theorem fails_locateNamed {text : String} (h : Covers P text) (names : List String) (route : Route)
    (goal : Goal) : Fails P (fs.locateNamed names text route goal) := by
  unfold locateNamed
  split_ifs with hzero
  · exact fails_error (h.zero (by simpa using hzero))
  · exact fails_obstacle h.refusal _ _
  · cases fs.lookup [] fs.workDir route goal with
    | error o => exact fails_obstacle h.refusal o _
    | ok target => exact fails_ok target

theorem locate_zero {text : String} (h : '\x00' ∈ text.toList) (route : Route) (goal : Goal) :
    fs.locate text route goal = .error zeroCharacter := by
  unfold locate locateNamed
  rw [if_pos (by simpa using h)]
  rfl

theorem fails_locate {text : String} (h : Covers P text) (route : Route) (goal : Goal) :
    Fails P (fs.locate text route goal) :=
  fs.fails_locateNamed h [text] route goal

theorem fails_entryAt (h : Covers P p.text) (goal : Goal) : Fails P (fs.entryAt p goal) := by
  refine (fs.fails_locate h _ _).bind fun target => ?_
  cases target.held with
  | error o => exact fails_obstacle h.refusal o _
  | ok e => exact fails_ok e

theorem fails_makeDirectoryAt {text : String} (h : Covers P text) (route : Route) (mode : Nat) :
    Fails P (fs.makeDirectoryAt text route mode) := by
  refine (fs.fails_locate h _ _).bind fun target => ?_
  cases target.entry with
  | some e => exact fails_obstacle h.refusal _ _
  | none =>
    dsimp only
    split
    · exact fails_obstacle h.refusal _ _
    · exact fails_ok _

theorem fails_makeDirectory (h : Covers P p.text) (mode : Nat) :
    Fails P (fs.makeDirectory p mode) :=
  fs.fails_makeDirectoryAt h p.route mode

theorem fails_unlink (h : Covers P p.text) : Fails P (fs.unlink p) := by
  refine (fs.fails_locate h _ _).bind fun target => ?_
  dsimp only
  cases target.held with
  | error o => exact fails_obstacle h.refusal o _
  | ok e =>
    dsimp only
    split_ifs
    · exact fails_obstacle h.refusal _ _
    · exact fails_obstacle h.refusal _ _
    · exact fails_ok _

theorem fails_makeLink (h : Covers P p.text) {goal : String}
    (hgoal : '\x00' ∈ goal.toList → P zeroCharacter) : Fails P (fs.makeLink goal p) := by
  unfold makeLink makeLinkAt
  dsimp only
  split_ifs with hzero
  · rw [Bool.or_eq_true, List.contains_iff_mem, List.contains_iff_mem] at hzero
    exact fails_error (hzero.elim hgoal h.zero)
  · exact fails_obstacle h.refusal _ _
  · exact fails_obstacle h.refusal _ _
  · refine (fs.fails_locateNamed h _ _ _).bind fun t => ?_
    cases t.entry with
    | some e => exact fails_obstacle h.refusal _ _
    | none =>
      dsimp only
      split_ifs
      · exact fails_obstacle h.refusal _ _
      · exact fails_ok _

theorem fails_create (h : Covers P p.text) : Fails P (fs.create p) := by
  refine (fs.fails_locate h _ _).bind fun target => ?_
  rcases target.entry with _ | e
  · dsimp only
    split
    · exact fails_obstacle h.refusal _ _
    · exact fails_ok _
  · cases e with
    | file mode content =>
      dsimp only
      split
      · exact fails_obstacle h.refusal _ _
      · exact fails_ok _
    | _ => exact fails_obstacle h.refusal _ _

theorem fails_openFile (h : Covers P p.text) (forWriting : Bool) :
    Fails P (fs.openFile p forWriting) := by
  refine (fs.fails_locate h _ _).bind fun target => ?_
  cases target.held with
  | error o => exact fails_obstacle h.refusal o _
  | ok e =>
    dsimp only
    split
    · exact fails_obstacle h.refusal _ _
    split
    · exact fails_obstacle h.refusal _ _
    · cases e with
      | file mode content => exact fails_ok _
      | _ => exact fails_obstacle h.refusal _ _

/-- What the size of a file cannot be, in the words of the machine. -/
def overflow : Failure :=
  ⟨.overflow "Python int too large to convert to C long", []⟩

section Resize

variable (place : Place) {size : Int}

theorem resizeFile_beyond (h : size < -2 ^ 63 ∨ 2 ^ 63 ≤ size) :
    fs.resizeFile place size = .error overflow := by
  unfold resizeFile
  rw [if_pos (by rw [Bool.or_eq_true, decide_eq_true_eq, decide_eq_true_eq]; omega)]
  rfl

theorem resizeFile_negative (h : -2 ^ 63 ≤ size) (hsize : size < 0) :
    fs.resizeFile place size = .error (Obstacle.invalid.failure []) := by
  unfold resizeFile
  rw [if_neg (by rw [Bool.or_eq_true, decide_eq_true_eq, decide_eq_true_eq]; omega), if_pos hsize]

theorem exists_resizeFile (size : Int) (hsize : 0 ≤ size) (h : size < 2 ^ 63) :
    ∃ fs', fs.resizeFile place size = .ok fs' := by
  unfold resizeFile
  rw [if_neg (by rw [Bool.or_eq_true, decide_eq_true_eq, decide_eq_true_eq]; omega),
    if_neg (by omega)]
  split
  · exact ⟨_, rfl⟩
  · exact ⟨fs, rfl⟩

theorem fails_resizeFile (h : ∀ e, e.isRefusal = true → P e)
    (hrange : size < -2 ^ 63 ∨ 2 ^ 63 ≤ size → P overflow) :
    Fails P (fs.resizeFile place size) := by
  by_cases hbeyond : size < -2 ^ 63 ∨ 2 ^ 63 ≤ size
  · rw [fs.resizeFile_beyond place hbeyond]
    exact fails_error (hrange hbeyond)
  by_cases hsize : size < 0
  · rw [fs.resizeFile_negative place (by omega) hsize]
    exact fails_obstacle h _ _
  · obtain ⟨fs', hfs'⟩ := fs.exists_resizeFile place size (by omega) (by omega)
    rw [hfs']
    exact fails_ok fs'

end Resize

/-- Whether a path leads to a directory has an answer for a path with a zero character too. -/
theorem fails_isDirectoryAt (h : ∀ e, e.isRefusal = true → P e) (p : Path) :
    Fails P (fs.isDirectoryAt p) := by
  have hentry : Fails (fun e => e.isRefusal = true ∨ e = zeroCharacter) (fs.entryAt p .object) :=
    fs.fails_entryAt ⟨fun _ => .inl, fun _ => .inr rfl⟩ .object
  unfold isDirectoryAt
  generalize fs.entryAt p .object = x at hentry
  rcases x with ⟨fault, causes⟩ | e
  · rcases hentry _ rfl with hrefusal | hzero
    · cases fault with
      | refusal r =>
        dsimp only
        split
        · exact fails_ok _
        · exact fails_error (h _ rfl)
      | _ => cases hrefusal
    · rw [hzero]
      exact fails_ok false
  · exact fails_ok _

end FileSystem

section Actions

theorem FailsWith.bind {act : FileAction α} {f : α → FileAction β} (h : FailsWith P act)
    (hf : ∀ a, FailsWith P (f a)) : FailsWith P (act >>= f) := by
  intro fs
  have hact := h fs
  rw [Action.bind_apply]
  generalize act fs = x at hact
  obtain ⟨e | a, fs'⟩ := x
  · exact fails_error (hact e rfl)
  · exact hf a fs'

theorem failsWith_query {f : FileSystem → Except Failure α} (h : ∀ fs, Fails P (f fs)) :
    FailsWith P (Action.query f) := h

theorem failsWith_change {f : FileSystem → Except Failure FileSystem} (h : ∀ fs, Fails P (f fs)) :
    FailsWith P (Action.change f) := by
  intro fs
  have hf := h fs
  unfold Action.change
  cases hfs : f fs with
  | error e => exact fails_error (hf e hfs)
  | ok fs' => exact fails_ok ()

theorem failsWith_pure (a : α) : FailsWith P (pure a) :=
  fun _ => fails_ok a

theorem failsWith_throw {e : Failure} (h : P e) : FailsWith P (throw e : FileAction α) :=
  fun _ => fails_error h

theorem failsWith_attempt_bind {act : FileAction α} {f : Except Failure α → FileAction β}
    (h : FailsWith P act) (hok : ∀ a, FailsWith P (f (.ok a)))
    (herror : ∀ e, P e → FailsWith P (f (.error e))) :
    FailsWith P (Action.attempt act >>= f) := by
  intro fs
  have hact := h fs
  rw [Action.bind_apply, Action.attempt_apply]
  generalize act fs = x at hact
  obtain ⟨e | a, fs'⟩ := x
  · exact herror e (hact e rfl) fs'
  · exact hok a fs'

theorem failsWith_acceptDirectory (h : ∀ e, e.isRefusal = true → P e) (p : Path) {e : Failure}
    (he : P e) : FailsWith P (FileAction.acceptDirectory p e) := by
  unfold FileAction.acceptDirectory
  split
  · refine (failsWith_query fun fs => fs.fails_isDirectoryAt h p).bind fun there => ?_
    split
    · exact failsWith_pure ()
    · exact failsWith_throw he
  · exact failsWith_throw he

theorem failsWith_makeDirectoriesTo {anchor : Anchor} {steps : List Step}
    (h : Covers P (Path.text ⟨anchor, steps.reverse⟩)) (mode : Nat) :
    FailsWith P (FileAction.makeDirectoriesTo anchor steps mode) := by
  have hmake : ∀ {steps : List Step} (mode : Nat) {f : Except Failure Unit → FileAction Unit},
      Covers P (Path.text ⟨anchor, steps.reverse⟩) → FailsWith P (f (.ok ())) →
      (∀ e, P e → FailsWith P (f (.error e))) →
      FailsWith P (Action.attempt
        (Action.change (·.makeDirectory ⟨anchor, steps.reverse⟩ mode)) >>= f) :=
    fun mode _ hcovers hok herror => failsWith_attempt_bind
      (failsWith_change fun fs => fs.fails_makeDirectory hcovers mode) (fun _ => hok) herror
  induction steps generalizing mode with
  | nil =>
    unfold FileAction.makeDirectoriesTo
    refine hmake mode h (failsWith_pure ()) fun e he => ?_
    dsimp only
    split
    · exact failsWith_acceptDirectory h.refusal _ he
    · exact failsWith_throw he
  | cons step outer ih =>
    -- the names of the directories around it are among its own
    have houter : Covers P (Path.text ⟨anchor, outer.reverse⟩) :=
      Covers.of_subset (q := ⟨anchor, (step :: outer).reverse⟩) (by simp +contextual) h
    unfold FileAction.makeDirectoriesTo
    refine hmake mode h (failsWith_pure ()) fun e he => ?_
    dsimp only
    split
    · exact failsWith_acceptDirectory h.refusal _ he
    · refine (ih houter _).bind fun _ => ?_
      refine hmake mode h (failsWith_pure ()) fun e' he' => ?_
      dsimp only
      split
      · exact failsWith_throw he'
      · exact failsWith_acceptDirectory h.refusal _ he'

theorem failsWith_makeDirectories {p : Path} (h : Covers P p.text) (mode : Nat) :
    FailsWith P (FileAction.makeDirectories p mode) :=
  failsWith_makeDirectoriesTo (by rwa [List.reverse_reverse]) mode

theorem failsWith_create {p : Path} (h : Covers P p.text) : FailsWith P (FileAction.create p) := by
  intro fs
  have hcreate := fs.fails_create h
  unfold FileAction.create
  cases hfs : fs.create p with
  | error e => exact fails_error (hcreate e hfs)
  | ok made => exact fails_ok _

end Actions

section Images

variable {image : Image} {size : Int}

/-- Opens the file of an image, which is made with the directories it is in, or emptied. -/
def Allocation.makeFile (image : Image) : FileAction Place := do
  FileAction.makeDirectories image.fsPath.parent FileAction.directoryMode
  FileAction.create image.fsPath

theorem Allocation.allocateFile_eq (image : Image) (size : Int) :
    allocateFile image size = makeFile image >>= fun place =>
      Action.change (·.resizeFile place size) := by
  unfold allocateFile makeFile
  simp only [bind_assoc]

theorem Allocation.failsWith_makeFile (h : Covers P image.fsPath.text) :
    FailsWith P (makeFile image) := by
  have hparent : Covers P image.fsPath.parent.text :=
    .of_subset (fun _ hs => List.dropLast_subset _ hs) h
  exact (failsWith_makeDirectories hparent _).bind fun _ => failsWith_create h

theorem Allocation.failsWith_allocateFile (h : Covers P image.fsPath.text)
    (hrange : size < -2 ^ 63 ∨ 2 ^ 63 ≤ size → P FileSystem.overflow) :
    FailsWith P (allocateFile image size) := by
  rw [allocateFile_eq]
  exact (failsWith_makeFile h).bind fun place =>
    failsWith_change fun fs => fs.fails_resizeFile place h.refusal hrange

theorem Shrinking.failsWith_truncateFile (h : Covers P image.fsPath.text)
    (hrange : size < -2 ^ 63 ∨ 2 ^ 63 ≤ size → P FileSystem.overflow) :
    FailsWith P (truncateFile image size) :=
  (failsWith_query fun fs => fs.fails_openFile h true).bind fun opened =>
    failsWith_change fun fs => fs.fails_resizeFile opened.1 h.refusal hrange

end Images

end GuestImage
