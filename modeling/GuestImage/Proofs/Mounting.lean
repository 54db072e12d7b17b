import GuestImage.Proofs.Calls

/-!
# Mounted while it is populated

To populate an image is to make a fresh directory (`Fresh`), to mount the image on it, to fill it
(`Fills`), to unmount it, and to remove the directory unless the image is still mounted. `Populates`
tells the events of that and its outcome, and `adds_populates` says that there are no others.
-/

namespace GuestImage.Population

variable {σ : Type}

/-- A directory is made in another one, under a name that was not taken. -/
def Fresh (dir : Path) (fs : FileSystem) (d : Path) (fs' : FileSystem) : Prop :=
  ∃ name, d = dir.child name ∧
    fs.makeDirectoryAt (Path.joinText dir.text name) (dir.child name).route mountpointMode = .ok fs'

/-- One more name is tried, and the next one after it only if it is taken. -/
theorem makeFreshDirectory_succ (dir : Path) (tries : Nat) (w : Run σ) :
    makeFreshDirectory dir (tries + 1) w =
      let name := mountpointStem ++ toString w.nextTemporary
      let w' := { w with nextTemporary := w.nextTemporary + 1 }
      match w.files.makeDirectoryAt (Path.joinText dir.text name) (dir.child name).route
        mountpointMode with
      | .ok fs => (.ok (dir.child name), { w' with files := fs })
      | .error e =>
        match e.fault with
        | .refusal ⟨.present, _, _, _⟩ => makeFreshDirectory dir tries w'
        | _ => (.error e, w') := by
  rw [makeFreshDirectory]
  simp only [Action.bind_apply, Action.get_apply, Action.modify_apply, Action.attempt_apply,
    Procedure.onFiles_apply, Action.change]
  generalize w.files.makeDirectoryAt _ _ _ = made
  rcases made with ⟨fault, causes⟩ | fs
  · cases fault with
    | refusal r =>
      obtain ⟨kind, number, message, names⟩ := r
      cases kind with
      | _ => rfl
    | _ => rfl
  · rfl

theorem makeFreshDirectory_cases (dir : Path) (tries : Nat) :
    ∀ w : Run σ, (makeFreshDirectory dir tries w).2.history = w.history ∧
      ((∃ d, (makeFreshDirectory dir tries w).1 = .ok d ∧
          Fresh dir w.files d (makeFreshDirectory dir tries w).2.files) ∨
        ∃ e, (makeFreshDirectory dir tries w).1 = .error e) := by
  induction tries with
  | zero => exact fun w => ⟨rfl, .inr ⟨_, rfl⟩⟩
  | succ tries ih =>
    intro w
    rw [makeFreshDirectory_succ]
    dsimp only
    split
    · rename_i fs hmade
      exact ⟨rfl, .inl ⟨_, rfl, _, rfl, hmade⟩⟩
    · split
      · exact ih { w with nextTemporary := w.nextTemporary + 1 }
      · exact ⟨rfl, .inr ⟨_, rfl⟩⟩

/-- A directory to mount an image on is made fresh, or nothing is noted. -/
theorem makeMountpoint_cases (image : Image) (dir : Path) (w : Run σ) :
    (∃ d, (makeMountpoint image dir w).1 = .ok d ∧
        Fresh dir w.files d (makeMountpoint image dir w).2.files ∧
        (makeMountpoint image dir w).2.history = w.history ++ [.mountpointMade d]) ∨
      ∃ e, (makeMountpoint image dir w).1 = .error e ∧
        (makeMountpoint image dir w).2.history = w.history := by
  obtain ⟨hhistory, hcases⟩ := makeFreshDirectory_cases dir maxTries w
  unfold makeMountpoint
  rw [Action.bind_apply, Action.attempt_apply]
  generalize makeFreshDirectory dir maxTries w = x at hhistory hcases
  obtain ⟨o, w'⟩ := x
  rcases hcases with ⟨d, ho, hfresh⟩ | ⟨e, ho⟩
  · obtain rfl : o = .ok d := ho
    refine .inl ⟨d, rfl, hfresh, ?_⟩
    exact congrArg (· ++ [Event.mountpointMade d]) hhistory
  · obtain rfl : o = .error e := ho
    refine .inr ?_
    rcases e with ⟨fault, causes⟩
    cases fault with
    | _ => exact ⟨_, rfl, hhistory⟩

/-- What a failure to unpack into an image is reported as. -/
def extractionFailure (image : Image) (e : Failure) : Failure :=
  match e.fault with
  | .refusal r =>
    .caused
      (.stage
        { code := .extraction
          message := "Failed to extract source into image " ++ image.uid ++ "."
          context := ⟨[("image", image.uid), ("operation", "extract"), ("cause", r.text)]⟩ })
      e
  | _ => e.annotate [("image", image.uid)]

/-- What a failure to set up the name servers of an image is reported as. -/
def nameServersFailure (image : Image) (e : Failure) : Failure :=
  match e.fault with
  | .refusal r =>
    .caused
      (.stage
        { code := .resolvSetup
          message := "Failed to set up resolv.conf for image " ++ image.uid ++ "."
          context := ⟨[("image", image.uid), ("operation", "resolv_conf"), ("cause", r.text)]⟩ })
      e
  | _ => e.annotate [("image", image.uid)]

theorem unpackInto_eq (runner : Runner σ) (unpacker : Unpacker) (image : Image) (source : Source)
    (d : Path) (w : Run σ) :
    (unpackInto runner unpacker image source d w).1 =
        (Unpacker.unpack runner unpacker source d w).1.mapError (extractionFailure image) ∧
      (unpackInto runner unpacker image source d w).2.files =
        (Unpacker.unpack runner unpacker source d w).2.files ∧
      (unpackInto runner unpacker image source d w).2.history =
        (Unpacker.unpack runner unpacker source d w).2.history := by
  unfold unpackInto
  refine bind_logs (Except.mapError (extractionFailure image)) (fun o => ?_) w
  rcases o with e | _
  · unfold extractionFailure
    rcases e with ⟨fault, causes⟩
    cases fault with
    | stage f => exact logs_record_bind (logs_throw _)
    | _ => exact logs_throw _
  · exact logs_pure ()

theorem setUpNameServers_eq (image : Image) (d : Path) (w : Run σ) :
    (setUpNameServers image d w).1 =
        (NameResolution.ensure d w.files).1.mapError (nameServersFailure image) ∧
      (setUpNameServers image d w).2.files = (NameResolution.ensure d w.files).2 ∧
      (setUpNameServers image d w).2.history = w.history := by
  unfold setUpNameServers
  refine bind_logs (Except.mapError (nameServersFailure image)) (fun o => ?_) w
  rcases o with e | linked
  · unfold nameServersFailure
    rcases e with ⟨fault, causes⟩
    cases fault with
    | stage f => exact logs_record_bind (logs_throw _)
    | refusal r => exact logs_record_bind (logs_throw _)
    | _ => exact logs_throw _
  · cases linked with
    | true => exact logs_record_bind (logs_pure _)
    | false => exact logs_pure _

/-- What the steps on a mounted image come to, from the files before them: the events they add to
the history, and whether a link was made. -/
inductive Fills (unpacker : Unpacker) (image : Image) (source : Source) (d : Path)
    (fs : FileSystem) : List Event → Except Failure Bool → Prop
  | refused {events : List Event} {e : Failure} {fs' : FileSystem}
      (unpacks : Unpacker.Unpacks source d fs unpacker events (.error e) fs') :
    Fills unpacker image source d fs events (.error (extractionFailure image e))
  | unpacked {events : List Event} {fs' : FileSystem}
      (unpacks : Unpacker.Unpacks source d fs unpacker events (.ok ()) fs') :
    Fills unpacker image source d fs events
      ((NameResolution.ensure d fs').1.mapError (nameServersFailure image))

theorem adds_fills (runner : Runner σ) (unpacker : Unpacker) (image : Image) (source : Source)
    (d : Path) :
    Adds (do
      unpackInto runner unpacker image source d
      setUpNameServers image d : Procedure σ Bool)
      fun fs events o _ => Fills unpacker image source d fs events o := by
  intro w
  obtain ⟨events, hunpack, hunpacks⟩ :=
    Unpacker.exists_unpacks runner source d w unpacker
  obtain ⟨ho, hfiles, hhistory⟩ := unpackInto_eq runner unpacker image source d w
  refine ⟨events, ?_⟩
  rw [Action.bind_apply]
  rw [hunpack] at hhistory
  generalize unpackInto runner unpacker image source d w = x at ho hfiles hhistory
  obtain ⟨o, w'⟩ := x
  generalize Unpacker.unpack runner unpacker source d w = y at ho hfiles hunpacks
  obtain ⟨o', w''⟩ := y
  obtain rfl : o = o'.mapError (extractionFailure image) := ho
  cases o' with
  | error e => exact ⟨hhistory, .refused hunpacks⟩
  | ok =>
    obtain ⟨hlinked, -, hstill⟩ := setUpNameServers_eq image d w'
    refine ⟨hstill.trans hhistory, ?_⟩
    have hafter : w'.files = w''.files := hfiles
    change Fills unpacker image source d w.files events (setUpNameServers image d w').1
    rw [hlinked, hafter]
    exact .unpacked hunpacks

/-- What steps on an image that is mounted while they last come to: the outcome, and whether the
image is still mounted. -/
theorem whileMounted_cases (runner : Runner σ) (image : Image) (d : Path)
    {body : Procedure σ Bool} {P : FileSystem → List Event → Except Failure Bool → Prop}
    (hbody : Adds body fun fs events o _ => P fs events o) (w : Run σ) :
    ∃ m : Call, m.argv = mountArgv image d ∧ m.before = w.files ∧
      ((∃ e, m.outcome.bind (mountVerdict image d) = .error e ∧
          (whileMounted runner image d body w).1 = .ok (.error e, false) ∧
          (whileMounted runner image d body w).2.history = w.history ++ [.called m]) ∨
        m.outcome.bind (mountVerdict image d) = .ok () ∧
          ∃ (events : List Event) (outcome : Except Failure Bool) (u : Call),
            P m.after events outcome ∧ u.argv = ["umount", d.text] ∧
            (whileMounted runner image d body w).1 =
              .ok (firstError outcome (u.outcome.bind (unmountVerdict image d)),
                !(u.outcome.bind (unmountVerdict image d)).isOk) ∧
            (whileMounted runner image d body w).2.history =
              w.history ++ .called m :: (events ++ [.called u])) := by
  obtain ⟨m, hm, ho⟩ := mount_consults runner image d w
  refine ⟨m, hm.argv, hm.before, ?_⟩
  unfold whileMounted
  rw [Action.bind_apply, Action.attempt_apply]
  have hafter := hm.after
  have hhistory := hm.history
  generalize mount runner image d w = x at ho hafter hhistory
  obtain ⟨o, w₁⟩ := x
  obtain rfl : o = m.outcome.bind (mountVerdict image d) := ho
  rcases hmount : m.outcome.bind (mountVerdict image d) with e | _
  · exact .inl ⟨e, rfl, rfl, hhistory⟩
  · refine .inr ⟨rfl, ?_⟩
    obtain ⟨events, hevents, hp⟩ := hbody w₁
    obtain ⟨u, hu, hrelease⟩ := unmount_consults runner image d (body w₁).2
    obtain ⟨hsettled, -, hsettledHistory⟩ := settle_eq (unmount runner image d)
      (recordSuppressed image) (fun _ => logs_record _) body w₁
    rw [hrelease] at hsettled
    have hp : P m.after events (body w₁).1 := hafter ▸ hp
    refine ⟨events, (body w₁).1, u, hp, hu.argv, ?_, ?_⟩
    · exact congrArg (fun s : Settled Bool => Except.ok (s.outcome, !s.released)) hsettled
    · refine hsettledHistory.trans ?_
      rw [hu.history, hevents, hhistory]
      simp

/-- What populating an image comes to, from the files before it: the events it adds to the history,
and whether a link was made. -/
inductive Populates (unpacker : Unpacker) (dir : Path) (image : Image) (source : Source)
    (fs : FileSystem) : List Event → Except Failure Bool → Prop
  | unmade {σ : Type} {w : Run σ} {e : Failure} (files : w.files = fs)
      (refused : (makeMountpoint image dir w).1 = .error e) :
    Populates unpacker dir image source fs [] (.error e)
  | unmounted {d : Path} {m : Call} {e : Failure} (fresh : Fresh dir fs d m.before)
      (argv : m.argv = mountArgv image d)
      (refused : m.outcome.bind (mountVerdict image d) = .error e) :
    Populates unpacker dir image source fs
      [.mountpointMade d, .called m, .mountpointRemoved d] (.error e)
  | mounted {d : Path} {m u : Call} {events : List Event} {outcome : Except Failure Bool}
      (fresh : Fresh dir fs d m.before) (argv : m.argv = mountArgv image d)
      (accepted : m.outcome.bind (mountVerdict image d) = .ok ())
      (fills : Fills unpacker image source d m.after events outcome)
      (release : u.argv = ["umount", d.text]) :
    Populates unpacker dir image source fs
      (.mountpointMade d :: .called m :: (events ++ .called u ::
        if (u.outcome.bind (unmountVerdict image d)).isOk then [.mountpointRemoved d] else []))
      (firstError outcome (u.outcome.bind (unmountVerdict image d)))

theorem adds_populates (runner : Runner σ) (unpacker : Unpacker) (dir : Path) (image : Image)
    (source : Source) :
    Adds (populate runner unpacker dir image source)
      fun fs events o _ => Populates unpacker dir image source fs events o := by
  refine .after_logs (logs_record _) fun w => ?_
  rw [Action.bind_apply]
  rcases makeMountpoint_cases image dir w with ⟨d, hmade, hfresh, hhistory⟩ | ⟨e, hmade, hhistory⟩
  · generalize makeMountpoint image dir w = x at hmade hfresh hhistory
    obtain ⟨o, w₁⟩ := x
    obtain rfl : o = .ok d := hmade
    obtain ⟨m, hargv, hbefore, hcases⟩ := whileMounted_cases runner image d
      (adds_fills runner unpacker image source d) w₁
    have hfresh : Fresh dir w.files d m.before := hbefore ▸ hfresh
    dsimp only
    rw [Action.bind_apply]
    generalize whileMounted runner image d _ w₁ = y at hcases
    obtain ⟨o, w₂⟩ := y
    rcases hcases with ⟨e, hrefused, ho, hmounted⟩ |
      ⟨haccepted, events, outcome, u, hfills, hrelease, ho, hmounted⟩
    · obtain rfl : o = .ok (.error e, false) := ho
      have hmounted : w₂.history = w.history ++ [.mountpointMade d, .called m] := by
        rw [show w₂.history = w₁.history ++ [.called m] from hmounted,
          show w₁.history = w.history ++ [.mountpointMade d] from hhistory]
        simp
      refine ⟨[.mountpointMade d, .called m, .mountpointRemoved d], ?_,
        .unmounted hfresh hargv hrefused⟩
      change w₂.history ++ [.mountpointRemoved d] = _
      rw [hmounted]
      simp
    · have hpopulates := Populates.mounted hfresh hargv haccepted hfills hrelease
      generalize u.outcome.bind (unmountVerdict image d) = v at ho hpopulates
      obtain rfl : o = .ok (firstError outcome v, !v.isOk) := ho
      have hall : w₂.history =
          w.history ++ .mountpointMade d :: .called m :: (events ++ [.called u]) := by
        rw [show w₂.history = w₁.history ++ _ from hmounted,
          show w₁.history = w.history ++ [.mountpointMade d] from hhistory]
        simp
      cases v with
      | error =>
        refine ⟨_, ?_, hpopulates⟩
        change w₂.history = _
        rw [hall]
        rfl
      | ok =>
        refine ⟨_, ?_, hpopulates⟩
        change w₂.history ++ [.mountpointRemoved d] = _
        rw [hall]
        simp [Except.isOk, Except.toBool]
  · have hrefused := hmade
    generalize makeMountpoint image dir w = x at hmade hhistory
    obtain ⟨o, w₁⟩ := x
    obtain rfl : o = .error e := hmade
    exact ⟨[], hhistory.trans (List.append_nil _).symm, .unmade rfl hrefused⟩

end GuestImage.Population
