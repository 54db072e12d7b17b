import GuestImage.Proofs.Directories

/-!
# Making a directory with those it is in

To make a directory and those it is in either changes nothing, or makes directories on the way to
one that was not there before (`Made`). Below a directory that is there it changes something and
fails in the end only if something else than the shape of the tree hinders it (`Accomplishes`,
`makeDirectories_cases`).
-/

namespace GuestImage

open FileSystem
open NameResolution (below)

/-- A refusal that is not about the shape of the tree: a right is missing, or a name or a path is
too long. -/
def Failure.IsHindrance (e : Failure) : Prop :=
  ∃ o files, (o = .denied ∨ o = .nameTooLong) ∧ e = Obstacle.failure o files

/-- An outcome is the wanted one, or a failure with nothing changed, unless something else than the
shape of the tree was in the way. -/
def Accomplishes {α : Type} (fs : FileSystem) (a : α) (P : FileSystem → Prop)
    (r : Except Failure α × FileSystem) : Prop :=
  (r.1 = .ok a ∧ P r.2) ∨ ∃ e, r.1 = .error e ∧ (r.2 = fs ∨ e.IsHindrance)

theorem Accomplishes.bind {α β : Type} {fs fs₁ : FileSystem} {a : α} {b : β}
    {P Q : FileSystem → Prop} {act : FileAction α} {f : α → FileAction β}
    (h : Accomplishes fs a P (act fs₁)) (hf : ∀ fs₂, P fs₂ → Accomplishes fs b Q (f a fs₂)) :
    Accomplishes fs b Q ((act >>= f) fs₁) := by
  rw [Action.bind_apply]
  generalize act fs₁ = x at h
  obtain ⟨e | a', fs₂⟩ := x
  · obtain ⟨hok, -⟩ | ⟨e', he, hsame⟩ := h
    · cases hok
    · obtain rfl := Except.error.inj he
      exact .inr ⟨e, rfl, hsame⟩
  · obtain ⟨hok, hp⟩ | ⟨e', he, -⟩ := h
    · obtain rfl := Except.ok.inj hok
      exact hf fs₂ hp
    · cases he

section Accepting

variable {fs : FileSystem} {p : Path} {dir : Place} {n : String}

/-- A name that is too long is not that of a directory, and whether it is cannot be asked. -/
theorem acceptDirectory_of_long (h : fs.NamesDirectory p dir) (search : fs.Searchable dir)
    (hask : (p.child n).Askable) (hlong : maxNameSize < n.utf8ByteSize) {e : Failure}
    (he : e.isRefusal = true) :
    FileAction.acceptDirectory (p.child n) e fs =
      (.error (Obstacle.nameTooLong.failure [(p.child n).text]), fs) := by
  have hno : fs.isDirectoryAt (p.child n) =
      .error (Obstacle.nameTooLong.failure [(p.child n).text]) := by
    obtain ⟨links, hlook⟩ := h.exists_lookup_child n
    unfold isDirectoryAt entryAt find
    rw [locate_of_askable hask, hlook .object (by simp), comesTo_name search, if_neg (by simp),
      if_pos hlong]
    rfl
  unfold FileAction.acceptDirectory
  rw [if_pos he, Action.bind_apply, Action.query_apply, hno]

theorem acceptDirectory_cases (p : Path) (e : Failure) (fs : FileSystem) :
    (FileAction.acceptDirectory p e fs = (.ok (), fs) ∧ ∃ dir, fs.NamesDirectory p dir) ∨
      ∃ e', FileAction.acceptDirectory p e fs = (.error e', fs) := by
  unfold FileAction.acceptDirectory
  split
  · rw [Action.bind_apply, Action.query_apply]
    rcases hdir : fs.isDirectoryAt p with e' | _ | _
    · exact .inr ⟨e', rfl⟩
    · exact .inr ⟨e, rfl⟩
    · refine .inl ⟨rfl, ?_⟩
      unfold isDirectoryAt at hdir
      split at hdir
      · rename_i old held
        obtain ⟨⟨place, entry, slashed⟩, hlook, hentry⟩ := exists_lookup_of_entryAt held
        cases old with
        | directory mode =>
          obtain rfl : entry = some (.directory mode) := hentry
          exact ⟨place, mode, slashed, hlook⟩
        | file => cases hdir
        | link => cases hdir
      · split at hdir
        · cases hdir
        · split at hdir
          · cases hdir
          · cases hdir
        · cases hdir
  · exact .inr ⟨e, rfl⟩

end Accepting

/-- What making the directory that a path names has come to: it is there, and either nothing was
changed, or it was not there before, and what is new are directories on the way to it. -/
structure Made (fs fs' : FileSystem) (p : Path) (dir : Place) : Prop where
  names : fs'.NamesDirectory p dir
  grows : Grows fs fs'
  wellFormed : fs'.WellFormed
  around : ∀ q, fs.get? q = none → fs'.get? q ≠ none → q <:+ dir
  fresh : fs' = fs ∨
    fs.get? dir = none ∧ fs'.Searchable dir ∧ fs'.permits dir .write = true ∧ p.Askable

section Made

variable {fs fs' fs'' : FileSystem} {root p : Path} {place dir : Place} {names : List String}
  {n : String} {mode m : Nat}

theorem Grows.namesDirectory (h : Grows fs fs') (hp : fs.NamesDirectory p dir) :
    fs'.NamesDirectory p dir :=
  hp.of_keeps h.workDir h.keeps

/-- A mode with the rights to search and to write is one that directories can be made in. -/
def IsOpenMode (mode : Nat) : Prop :=
  ∀ right, right ≠ .read → (Entry.directory mode).permits right = true

theorem IsOpenMode.inherited (h : IsOpenMode mode) (parent : Option Entry) :
    IsOpenMode (inheritedMode parent mode) := by
  intro right hright
  unfold inheritedMode
  split
  · have hmode := h right hright
    simp only [Entry.permits, bne_iff_ne, ne_eq] at hmode ⊢
    rw [Nat.and_or_distrib_right, Nat.or_eq_zero_iff]
    exact fun hzero => hmode hzero.1
  · exact h right hright

theorem made_refl (hwf : fs.WellFormed) (h : fs.NamesDirectory p dir) : Made fs fs p dir where
  names := h
  grows := .refl fs
  wellFormed := hwf
  around _ hq hq' := absurd hq hq'
  fresh := .inl rfl

theorem made_insert (hwf : fs.WellFormed) (hp : fs.NamesDirectory p dir)
    (search : fs.Searchable dir) (hshort : ¬ maxNameSize < n.utf8ByteSize)
    (free : fs.get? (n :: dir) = none) (hmode : IsOpenMode m) (hask : (p.child n).Askable) :
    Made fs (fs.insert (n :: dir) (.directory m)) (p.child n) (n :: dir) := by
  have hgrows : Grows fs (fs.insert (n :: dir) (.directory m)) := grows_insert free
  have hself : (fs.insert (n :: dir) (.directory m)).get? (n :: dir) = some (.directory m) := by
    rw [get?_insert, if_pos rfl]
  refine ⟨?_, hgrows, ?_, ?_, .inr ⟨free, ⟨m, hself, hmode _ (by simp)⟩, ?_, hask⟩⟩
  · exact ⟨m, false, (hgrows.namesDirectory hp).lookup_child_object
      (search.of_keeps hgrows.keeps) hshort hself (by simp)⟩
  · obtain ⟨mode, hdir, -⟩ := search
    exact hwf.insert mode hdir free
  · intro q hq hq'
    rw [get?_insert] at hq'
    split_ifs at hq' with heq
    · exact heq ▸ List.suffix_rfl
    · exact absurd hq hq'
  · rw [permits, hself]
    exact hmode _ (by simp)

/-- One more directory is made in one that was made. -/
theorem Made.insert (h : Made fs fs' p dir) (search : fs'.Searchable dir)
    (hshort : ¬ maxNameSize < n.utf8ByteSize)
    (free : fs'.get? (n :: dir) = none) (hmode : IsOpenMode m) (hask : (p.child n).Askable) :
    Made fs (fs'.insert (n :: dir) (.directory m)) (p.child n) (n :: dir) := by
  have hmade := made_insert h.wellFormed h.names search hshort free hmode hask
  have hfree : fs.get? (n :: dir) = none := by
    rcases hheld : fs.get? (n :: dir) with _ | e
    · rfl
    · rw [h.grows.keeps _ _ hheld] at free
      cases free
  refine ⟨hmade.names, h.grows.trans hmade.grows, hmade.wellFormed, fun q hq hq' => ?_,
    hmade.fresh.imp (fun heq => ?_) fun hfresh => ⟨hfree, hfresh.2⟩⟩
  · rcases hheld : fs'.get? q with _ | e
    · exact hmade.around q hheld hq'
    · exact (h.around q hq (by simp [hheld])).trans (List.suffix_cons _ _)
  · have hself := congrArg (FileSystem.get? · (n :: dir)) heq
    simp only [get?_insert, if_true, free] at hself
    cases hself

/-- Nothing is in a directory that was just made. -/
theorem Made.get?_cons (hwf : fs.WellFormed) (h : Made fs fs' p dir) (hnew : fs.get? dir = none)
    (n : String) : fs'.get? (n :: dir) = none := by
  rcases hheld : fs'.get? (n :: dir) with _ | e
  · rfl
  exfalso
  rcases hold : fs.get? (n :: dir) with _ | old
  · have hle := (h.around _ hold (by simp [hheld])).length_le
    simp only [List.length_cons] at hle
    omega
  · obtain ⟨mode, hmode⟩ := hwf.parent _ _ _ hold
    rw [hnew] at hmode
    cases hmode

theorem isOpenMode_directoryMode : IsOpenMode FileAction.directoryMode := by
  rintro (_ | _ | _) h
  · exact absurd rfl h
  · decide
  · decide

/-- To accept a directory changes nothing. -/
theorem made_acceptDirectory (hwf : fs.WellFormed) (p : Path) (e : Failure) :
    Accomplishes fs () (fun fs' => ∃ dir, Made fs fs' p dir)
      (FileAction.acceptDirectory p e fs) := by
  rcases acceptDirectory_cases p e fs with ⟨heq, dir, hnames⟩ | ⟨e', heq⟩
  · rw [heq]
    exact .inl ⟨rfl, dir, made_refl hwf hnames⟩
  · rw [heq]
    exact .inr ⟨e', rfl, .inl rfl⟩

/-- The directory that was missing what it is in is made in what was made for it. -/
theorem Made.child (hwf : fs.WellFormed) (h : Made fs fs' p dir) (hmode : IsOpenMode mode)
    {e : Failure} (hmissing : fs.makeDirectory (p.child n) mode = .error e)
    (he : e.isMissing = true) :
    Accomplishes fs () (fun fs₁ => ∃ inner, Made fs fs₁ (p.child n) inner)
      ((do
        match ← Action.attempt (Action.change (·.makeDirectory (p.child n) mode)) with
        | .ok () => return ()
        | .error e => if e.isMissing then throw e else FileAction.acceptDirectory (p.child n) e :
        FileAction Unit) fs') := by
  have hask := askable_of_isMissing hmissing he
  rcases h.fresh with rfl | ⟨hnone, search, writable, -⟩
  · exact absurd (h.names.not_isMissing hmissing) (by simp [he])
  have free := h.get?_cons hwf hnone n
  rw [Action.bind_apply, Action.attempt_apply]
  rcases h.names.makeDirectory_cases search writable free hask mode with
    ⟨hshort, hagain⟩ | ⟨hlong, hagain⟩
  · rw [Action.change_apply_ok hagain]
    exact .inl ⟨rfl, n :: dir, h.insert search hshort free (hmode.inherited _) hask⟩
  · have hpresent : (Obstacle.nameTooLong.failure [(p.child n).text]).isMissing = false := rfl
    rw [Action.change_apply_error hagain]
    simp only [hpresent, Bool.false_eq_true, if_false]
    rw [acceptDirectory_of_long h.names search hask hlong rfl]
    exact .inr ⟨_, rfl, .inr ⟨_, _, .inr rfl, rfl⟩⟩

/-- A directory is made with those it is in, below one that is there. Where that fails, nothing was
changed, or it was not the shape of the tree that was in the way. -/
theorem makeDirectoriesTo_cases (hwf : fs.WellFormed) (hroot : fs.NamesDirectory root place)
    (names : List String) : ∀ mode, IsOpenMode mode →
      Accomplishes fs () (fun fs' => ∃ dir, Made fs fs' (below root names) dir)
        (FileAction.makeDirectoriesTo root.anchor (names.map .name ++ root.steps.reverse) mode
          fs) := by
  have hpath : ∀ names : List String,
      (⟨root.anchor, (names.map Step.name ++ root.steps.reverse).reverse⟩ : Path) =
        below root names := by
    intro names
    simp [below, Path.join]
  induction names with
  | nil =>
    intro mode _
    obtain ⟨e, he, hmake⟩ := hroot.exists_makeDirectory_self mode
    rw [← NameResolution.below_nil root] at hmake
    unfold FileAction.makeDirectoriesTo
    rw [hpath, Action.bind_apply, Action.attempt_apply, Action.change_apply_error hmake]
    simp only [he, Bool.not_false, if_true]
    exact made_acceptDirectory hwf _ e
  | cons n names ih =>
    intro mode hmode
    rw [List.map_cons, List.cons_append, FileAction.makeDirectoriesTo, ← List.cons_append,
      ← List.map_cons, hpath, Action.bind_apply, Action.attempt_apply, ← NameResolution.child_below]
    rcases hmake : fs.makeDirectory ((below root names).child n) mode with e | fs'
    · rw [Action.change_apply_error hmake]
      by_cases he : e.isMissing = true
      -- what it is in is made first, and it is tried once more
      · simp only [he, Bool.not_true, Bool.false_eq_true, if_false, List.map_cons,
          List.cons_append]
        refine (ih FileAction.directoryMode isOpenMode_directoryMode).bind ?_
        rintro fs' ⟨dir, hmade⟩
        exact hmade.child hwf hmode hmake he
      · simp only [he, Bool.not_false, if_true]
        exact made_acceptDirectory hwf _ e
    · rw [Action.change_apply_ok hmake]
      obtain ⟨dir, hnames, search, hshort, free, hask, rfl⟩ := exists_of_makeDirectory hmake
      exact .inl ⟨rfl, n :: dir, made_insert hwf hnames search hshort free (hmode.inherited _) hask⟩

/-- A path leads on by names alone from a directory that is there. -/
def FileSystem.Grounds (fs : FileSystem) (root : Path) : Prop :=
  ∃ outer names dir, root = below outer names ∧ fs.NamesDirectory outer dir

theorem FileSystem.NamesDirectory.grounds (h : fs.NamesDirectory root dir) : fs.Grounds root :=
  ⟨root, [], dir, (NameResolution.below_nil root).symm, h⟩

theorem makeDirectories_cases (hwf : fs.WellFormed) (hroot : fs.Grounds root) (names : List String)
    (hmode : IsOpenMode mode) :
    Accomplishes fs () (fun fs' => ∃ dir, Made fs fs' (below root names) dir)
      (FileAction.makeDirectories (below root names) mode fs) := by
  obtain ⟨outer, more, place, rfl, houter⟩ := hroot
  have hbelow : below (below outer more) names = below outer (names ++ more) := by
    simp [below, Path.join]
  have hsteps : (below outer (names ++ more)).steps.reverse =
      (names ++ more).map .name ++ outer.steps.reverse := by
    simp [below, Path.join]
  unfold FileAction.makeDirectories
  rw [hbelow, hsteps]
  exact makeDirectoriesTo_cases hwf houter (names ++ more) mode hmode

end Made

end GuestImage
