import GuestImage.Proofs.Naming
import GuestImage.Proofs.Sizes

/-!
# How building the file of an image ends

Building the file of an image ends in one of three ways (`EndsAs`): there is no file, or it is not
formatted, or it is. A failure of the first two kinds names the image. What the stage does not
foresee is told by `Unforeseen`: a size beyond what the system takes for one, which comes to light
when the file has been made or emptied already, and what cannot be asked for or written down
(`build_ends_iff`).
-/

namespace GuestImage

variable {σ α : Type}

namespace Allocation

/-- The ways in which building the file of an image ends. -/
inductive Ending where
  | unmade
  | unformatted
  | formatted

/-- A call that formats the file of an image, which holds as many zeros as it was to have octets,
and nothing else. -/
structure FindsZeros (image : Image) (size : Int) (c : Call) : Prop where
  argv : c.argv = formatArgv image.fsPath.text
  nonneg : 0 ≤ size
  zeros : ∃ t mode content,
    c.before.lookup [] c.before.workDir image.fsPath.route .object = .ok t ∧
      t.entry = some (.file mode content) ∧ content.toList = List.replicate size.toNat 0

/-- What there is to say of each ending: the events, and the outcome. -/
def EndsAs (image : Image) (size : Int) (fs : FileSystem) (events : List Event)
    (o : Except Failure Path) : Ending → Prop
  | .unmade => events = [] ∧ ∃ cause e, (allocateFile image size fs).1 = .error cause ∧
      cause.isRefusal = true ∧ o = .error e ∧ e.Tells .allocation "allocate" image.uid ∧
      e.causes = cause.chain
  | .unformatted => ∃ c r f, events = [.called c] ∧ FindsZeros image size c ∧
      c.outcome = .ok r ∧ r.exitStatus ≠ 0 ∧ o = .error ⟨.stage f, []⟩ ∧
      Failure.Tells .format "format" image.uid ⟨.stage f, []⟩ ∧
      (r.diagnostics ≠ "" → r.diagnostics.toList <:+: f.message.toList)
  | .formatted => ∃ c r, events = [.called c] ∧ FindsZeros image size c ∧ c.outcome = .ok r ∧
      r.exitStatus = 0 ∧ o = .ok image.fsPath

/-- What building the file of an image fails with that is no failure of the stage. -/
inductive Unforeseen (image : Image) (size : Int) (fs : FileSystem) (events : List Event) : Prop
  /-- The path of the file has a zero character. -/
  | zero (named : '\x00' ∈ image.fsPath.text.toList)
  /-- The file was made, and no file can have the size. -/
  | unsized {place : Place} {fs' : FileSystem} (made : makeFile image fs = (.ok place, fs'))
      (beyond : size < -2 ^ 63 ∨ 2 ^ 63 ≤ size)
  /-- There is no file, and the size is too long to be told. -/
  | untoldSize {e : Failure} {fs' : FileSystem} (unmade : makeFile image fs = (.error e, fs'))
      (long : ¬Writable size)
  /-- The status that the formatting was answered with is too long to be told. -/
  | untoldStatus {c : Call} {r : ToolResult} (calls : events = [.called c])
      (answer : c.outcome = .ok r) (long : ¬Writable r.exitStatus)

section File

variable {image : Image} {size : Int} {fs fs' : FileSystem} {place : Place} {e : Failure}

theorem makeDirectories_zero {p : Path} (h : '\x00' ∈ p.text.toList) (mode : Nat) :
    FileAction.makeDirectories p mode fs = (.error zeroCharacter, fs) := by
  obtain ⟨anchor, steps⟩ := p
  have hmake : fs.makeDirectory ⟨anchor, steps.reverse.reverse⟩ mode = .error zeroCharacter := by
    rw [List.reverse_reverse]
    unfold FileSystem.makeDirectory FileSystem.makeDirectoryAt
    rw [fs.locate_zero h]
    rfl
  unfold FileAction.makeDirectories
  dsimp only
  generalize steps.reverse = reversed at hmake
  unfold FileAction.makeDirectoriesTo
  rw [Action.bind_apply, Action.attempt_apply, Action.change_apply_error hmake]
  rfl

theorem makeFile_zero (h : '\x00' ∈ image.fsPath.text.toList) :
    makeFile image fs = (.error zeroCharacter, fs) := by
  have hparent : '\x00' ∈ image.fsPath.parent.text.toList := by
    obtain ⟨s, hs, hc⟩ := Path.zero_mem_text.1 h
    rw [Image.parent_fsPath]
    rcases List.mem_append.1 hs with hs | hs
    · exact Path.zero_mem_text.2 ⟨s, hs, hc⟩
    · obtain rfl := List.mem_singleton.1 hs
      exact absurd hc (by decide)
  unfold makeFile
  rw [Action.bind_apply, makeDirectories_zero hparent]

theorem isRefusal_of_makeFile (h : '\x00' ∉ image.fsPath.text.toList)
    (unmade : makeFile image fs = (.error e, fs')) : e.isRefusal = true :=
  failsWith_makeFile (P := fun e => e.isRefusal = true) (covers_of_notMem (fun _ => id) h) fs e
    (congrArg Prod.fst unmade)

theorem allocateFile_of_unmade (unmade : makeFile image fs = (.error e, fs')) :
    (allocateFile image size fs).1 = .error e := by
  rw [allocateFile_eq, Action.bind_apply, unmade]

theorem allocateFile_of_made (made : makeFile image fs = (.ok place, fs')) :
    (allocateFile image size fs).1 = (fs'.resizeFile place size).map fun _ => () := by
  rw [allocateFile_eq, Action.bind_apply, made]
  unfold Action.change
  dsimp only
  cases fs'.resizeFile place size <;> rfl

/-- What the file of an image cannot be made or given its size for. -/
inductive Hindered (image : Image) (size : Int) (fs : FileSystem) : Failure → Prop
  | zero (named : '\x00' ∈ image.fsPath.text.toList) : Hindered image size fs zeroCharacter
  | refused {e : Failure} {fs' : FileSystem} (unmade : makeFile image fs = (.error e, fs'))
      (refusal : e.isRefusal = true) : Hindered image size fs e
  | beyond {place : Place} {fs' : FileSystem} (made : makeFile image fs = (.ok place, fs'))
      (beyond : size < -2 ^ 63 ∨ 2 ^ 63 ≤ size) : Hindered image size fs FileSystem.overflow
  | negative {place : Place} {fs' : FileSystem} (made : makeFile image fs = (.ok place, fs'))
      (within : -2 ^ 63 ≤ size) (negative : size < 0) :
    Hindered image size fs (Obstacle.invalid.failure [])

theorem allocateFile_cases (image : Image) (size : Int) (fs : FileSystem) :
    (allocateFile image size fs).1 = .ok () ∨
      ∃ e, (allocateFile image size fs).1 = .error e ∧ Hindered image size fs e := by
  by_cases hzero : '\x00' ∈ image.fsPath.text.toList
  · exact .inr ⟨_, allocateFile_of_unmade (makeFile_zero hzero), .zero hzero⟩
  rcases hmade : makeFile image fs with ⟨e | place, fs'⟩
  · exact .inr ⟨e, allocateFile_of_unmade hmade, .refused hmade (isRefusal_of_makeFile hzero hmade)⟩
  rw [allocateFile_of_made hmade]
  by_cases hbeyond : size < -2 ^ 63 ∨ 2 ^ 63 ≤ size
  · rw [fs'.resizeFile_beyond place hbeyond]
    exact .inr ⟨_, rfl, .beyond hmade hbeyond⟩
  by_cases hsize : size < 0
  · rw [fs'.resizeFile_negative place (by omega) hsize]
    exact .inr ⟨_, rfl, .negative hmade (by omega) hsize⟩
  · obtain ⟨fs'', hfs''⟩ := fs'.exists_resizeFile place size (by omega) (by omega)
    rw [hfs'']
    exact .inl rfl

/-- The failure to make the file of an image is one of the stage if it is a refusal, and the size
can be told. -/
theorem allocate_error {w : Run σ} {cause : Failure}
    (h : (allocateFile image size w.files).1 = .error cause) :
    (allocate image size w).1 = .error (if cause.isRefusal then
      match decimal size with
      | .ok text => allocationFailure image text cause
      | .error e => e
    else cause) := by
  unfold allocate
  rw [Action.bind_apply, Action.attempt_apply, Procedure.onFiles_apply]
  simp only [h]
  obtain ⟨fault, causes⟩ := cause
  cases fault with
  | refusal r =>
    dsimp only [Failure.isRefusal]
    rcases decimal size with e | text <;> rfl
  | _ => rfl

end File

section Endings

variable {image : Image} {size : Int} {fs : FileSystem} {events : List Event}
  {o : Except Failure Path} {f : Call}

/-- The ending that it is by the events and the outcome. -/
def Ending.of : List Event → Except Failure Path → Ending
  | [], _ => .unmade
  | _, .error _ => .unformatted
  | _, .ok _ => .formatted

theorem EndsAs.eq {ending : Ending} (h : EndsAs image size fs events o ending) :
    ending = .of events o := by
  cases ending with
  | unmade =>
    obtain ⟨rfl, -⟩ := h
    rfl
  | unformatted =>
    obtain ⟨c, r, f, rfl, -, -, -, rfl, -⟩ := h
    rfl
  | formatted =>
    obtain ⟨c, r, rfl, -, -, -, rfl⟩ := h
    rfl

theorem EndsAs.not_astray {ending : Ending} (h : EndsAs image size fs events o ending) :
    ¬Astray o := by
  rintro ⟨e, rfl, hout⟩
  cases ending with
  | unmade =>
    obtain ⟨-, cause, e', -, -, he, ⟨f, hf, -⟩, -⟩ := h
    obtain rfl := Except.error.inj he
    exact hout f hf
  | unformatted =>
    obtain ⟨c, r, f, -, -, -, -, he, -⟩ := h
    obtain rfl := Except.error.inj he
    exact hout f rfl
  | formatted =>
    obtain ⟨c, r, -, -, -, -, he⟩ := h
    cases he

/-- Where the file was made and has its size, only the status of the formatting is not foreseen. -/
theorem Unforeseen.of_allocated (allocated : (allocateFile image size fs).1 = .ok ())
    (h : Unforeseen image size fs events) :
    ∃ c r, events = [.called c] ∧ c.outcome = .ok r ∧ ¬Writable r.exitStatus := by
  cases h with
  | zero named => exact nomatch allocated.symm.trans (allocateFile_of_unmade (makeFile_zero named))
  | unsized made beyond =>
    rw [allocateFile_of_made made, FileSystem.resizeFile_beyond _ _ beyond] at allocated
    cases allocated
  | untoldSize unmade => exact nomatch allocated.symm.trans (allocateFile_of_unmade unmade)
  | untoldStatus calls answer long => exact ⟨_, _, calls, answer, long⟩

/-- Where the file is not made or has no size, building ends there, or goes astray. -/
theorem ends_of_hindered {cause e : Failure} {w : Run σ} (files : w.files = fs)
    (hindered : Hindered image size fs cause)
    (unmade : (allocateFile image size fs).1 = .error cause)
    (refused : (allocate image size w).1 = .error e) :
    (EndsAs image size fs [] (.error e) .unmade ∧ ¬Unforeseen image size fs []) ∨
      e.OutOfStage ∧ Unforeseen image size fs [] := by
  subst files
  rw [allocate_error unmade] at refused
  obtain rfl := Except.error.inj refused
  have hends : cause.isRefusal = true → Writable size →
      EndsAs image size w.files [] (.error (if cause.isRefusal then
        match decimal size with
        | .ok text => allocationFailure image text cause
        | .error e => e
      else cause)) .unmade := by
    intro hrefusal htold
    rw [if_pos hrefusal, decimal_of_writable htold]
    exact ⟨rfl, cause, _, unmade, hrefusal, rfl, ⟨_, rfl, rfl, rfl, rfl, rfl⟩, rfl⟩
  have hforeseen : cause.isRefusal = true → Writable size →
      (∀ place fs', makeFile image w.files = (.ok place, fs') →
        ¬(size < -2 ^ 63 ∨ 2 ^ 63 ≤ size)) → ¬Unforeseen image size w.files [] := by
    intro hrefusal htold hwithin h
    cases h with
    | zero named =>
      obtain rfl := Except.error.inj
        (unmade.symm.trans (allocateFile_of_unmade (makeFile_zero named)))
      cases hrefusal
    | unsized made beyond => exact hwithin _ _ made beyond
    | untoldSize _ long => exact long htold
    | untoldStatus calls => cases calls
  cases hindered with
  | zero named => exact .inr ⟨nofun, .zero named⟩
  | beyond made beyond => exact .inr ⟨nofun, .unsized made beyond⟩
  | negative made within negative =>
    -- such a size is within 64 bits, and so has few enough digits to be told
    have htold : Writable size := writable_of_lt (by omega)
    refine .inl ⟨hends rfl htold, hforeseen rfl htold fun _ _ _ => by omega⟩
  | refused none refusal =>
    by_cases htold : Writable size
    · refine .inl ⟨hends refusal htold, hforeseen refusal htold fun place fs' made => ?_⟩
      rw [none] at made
      cases made
    · rw [if_pos refusal, decimal_of_not_writable htold]
      exact .inr ⟨nofun, .untoldSize none htold⟩

theorem diagnostics_infix_formatMessage {r : ToolResult} (h : r.diagnostics ≠ "") :
    r.diagnostics.toList <:+: (formatMessage image r).toList := by
  have hempty : r.diagnostics.isEmpty = false := by simpa using h
  unfold formatMessage
  rw [hempty]
  refine ⟨("Failed to format image " ++ image.uid ++ " (stderr: ").toList, ").".toList, ?_⟩
  simp [String.toList_append]

/-- Where the file is made, it is formatted, or it is not, or the status is not told. -/
theorem ends_of_formats {r : ToolResult} (formats : Formats image size fs f)
    (answer : f.outcome = .ok r) :
    (∃ ending, EndsAs image size fs [.called f] (formatVerdict image r) ending) ∧
        ¬Unforeseen image size fs [.called f] ∨
      Astray (formatVerdict image r) ∧ Unforeseen image size fs [.called f] := by
  have hzeros : FindsZeros image size f := by
    obtain ⟨hsize, t, mode, content, hlookup, hentry, hcontent⟩ := allocateFile_ok formats.allocated
    exact ⟨formats.argv, hsize, t, mode, content, by rw [formats.before, hlookup], hentry, hcontent⟩
  have hforeseen : Writable r.exitStatus → ¬Unforeseen image size fs [.called f] := by
    intro htold h
    obtain ⟨c, r', hc, hr', hlong⟩ := h.of_allocated formats.allocated
    obtain rfl := Event.called.inj (List.cons.inj hc).1
    obtain rfl := Except.ok.inj (answer.symm.trans hr')
    exact hlong htold
  unfold formatVerdict
  split_ifs with hok
  · have hzero : r.exitStatus = 0 := by simpa [ToolResult.ok] using hok
    exact .inl ⟨⟨.formatted, f, r, rfl, hzeros, answer, hzero, rfl⟩,
      hforeseen (hzero ▸ writable_zero)⟩
  have hbad : r.exitStatus ≠ 0 := by simpa [ToolResult.ok] using hok
  unfold refusal
  by_cases htold : Writable r.exitStatus
  · rw [decimal_of_writable htold]
    exact .inl ⟨⟨.unformatted, f, r, _, rfl, hzeros, answer, hbad, rfl,
      ⟨_, rfl, rfl, rfl, rfl, rfl⟩, diagnostics_infix_formatMessage⟩, hforeseen htold⟩
  · rw [decimal_of_not_writable htold]
    refine .inr ⟨⟨_, rfl, ?_⟩, .untoldStatus rfl answer htold⟩
    rintro _ ⟨⟩

end Endings

/-- Building the file of an image ends in exactly one of the three ways, unless in what the stage
does not foresee. -/
theorem build_ends_iff (runner : Runner σ) (answers : runner.Answers) (image : Image) (size : Int)
    (w : Run σ) :
    ∃ events, (build runner image size w).2.history = w.history ++ events ∧
      ((∃! ending, EndsAs image size w.files events (build runner image size w).1 ending) ↔
        ¬Unforeseen image size w.files events) := by
  obtain ⟨events, hevents, hbuilds⟩ := adds_builds runner image size w
  have hanswered := allAnswered_of_keeps
    (build_keeps (carried_allAnswered answers) image (by decide) size) hevents
  refine ⟨events, hevents, ?_⟩
  suffices hends : (∃ ending, EndsAs image size w.files events (build runner image size w).1
      ending) ∧ ¬Unforeseen image size w.files events ∨
        Astray (build runner image size w).1 ∧ Unforeseen image size w.files events by
    rcases hends with ⟨⟨ending, hending⟩, hforeseen⟩ | ⟨hastray, hunforeseen⟩
    · exact iff_of_true ⟨ending, hending, fun _ h => h.eq.trans hending.eq.symm⟩ hforeseen
    · exact iff_of_false (fun ⟨_, h, _⟩ => h.not_astray hastray) (not_not_intro hunforeseen)
  generalize (build runner image size w).1 = o at hbuilds
  generalize (build runner image size w).2.files = fs' at hbuilds
  clear hevents
  cases hbuilds with
  | @unallocated _ w' e files refused =>
    rcases allocateFile_cases image size w.files with hmade | ⟨cause, hcause, hhindered⟩
    · have hok := ((allocate_step image size).ok w' ()).2 (files ▸ hmade)
      exact nomatch refused.symm.trans hok
    · rcases ends_of_hindered files hhindered hcause refused with ⟨hends, hforeseen⟩ | ⟨hout, hun⟩
      · exact .inl ⟨⟨_, hends⟩, hforeseen⟩
      · exact .inr ⟨⟨e, rfl, hout⟩, hun⟩
  | @formatted f allocated argv before =>
    obtain ⟨r, hr⟩ := hanswered f (List.mem_singleton_self _)
    rw [hr]
    exact ends_of_formats ⟨allocated, argv, before⟩ hr

/-- With the first size that no file can have, the file is left empty and nothing of it is told. -/
theorem build_ends_largestSizes :
    let w : Run Unit := { files := Provisioning.workingHost, runner := () }
    let image := Provisioning.largeImage
    let built := build Provisioning.workingRunner image (2 ^ 63) w
    Provisioning.workingRunner.Answers ∧
      (∃ events, built.2.history = w.history ++ events ∧
        ((∃! ending, EndsAs image (2 ^ 63) w.files events built.1 ending) ↔
          ¬Unforeseen image (2 ^ 63) w.files events)) ∧
      built.1 = .error FileSystem.overflow ∧
      built.2.files.entryAt image.fsPath .object = .ok (.file 0o666 .empty) ∧
      (build Provisioning.workingRunner image (2 ^ 63 - 1) w).1 = .ok image.fsPath := by
  have answers : Provisioning.workingRunner.Answers := fun argv _ _ => ⟨_, rfl⟩
  exact ⟨answers, build_ends_iff _ answers _ _ _, by decide +kernel, by decide +kernel,
    by decide +kernel⟩

end Allocation

end GuestImage
