import GuestImage.Proofs.Confinement

/-!
# The link to the name servers

To make directories is to add directories and nothing else (`Grows`). So where the names that the
directory of the link resolves to are no links, making sure of the name servers comes down to this
(`linked_of_ensure`): what there was under the name of the link is gone, the link is there, and
apart from it nothing was removed and only directories were added.
-/

namespace GuestImage

open FileSystem
open NameResolution (below LinkFree)

/-- Everything is kept, and what is added are directories. -/
structure Grows (fs fs' : FileSystem) : Prop where
  workDir : fs'.workDir = fs.workDir
  keeps : ∀ q e, fs.get? q = some e → fs'.get? q = some e
  added : ∀ q e, fs'.get? q = some e → fs.get? q = some e ∨ e.isDirectory = true

/-- Steps on files that only add directories. -/
def Growing {α : Type} (act : FileAction α) : Prop :=
  ∀ fs, Grows fs (act fs).2

section Growing

variable {α β : Type} {fs fs' fs'' : FileSystem} {root : Path} {place : Place}
  {names : List String} {n : String}

theorem Grows.refl (fs : FileSystem) : Grows fs fs where
  workDir := rfl
  keeps _ _ h := h
  added _ _ h := .inl h

theorem Grows.trans (h : Grows fs fs') (h' : Grows fs' fs'') : Grows fs fs'' where
  workDir := h'.workDir.trans h.workDir
  keeps q e hq := h'.keeps q e (h.keeps q e hq)
  added q e hq := (h'.added q e hq).elim (h.added q e) .inr

theorem grows_insert {p : Place} {mode : Nat} (free : fs.get? p = none) :
    Grows fs (fs.insert p (.directory mode)) where
  workDir := rfl
  keeps q e hq := by
    rw [get?_insert, if_neg, hq]
    rintro rfl
    rw [free] at hq
    cases hq
  added q e hq := by
    rw [get?_insert] at hq
    split_ifs at hq with hp
    · obtain rfl := Option.some.inj hq
      exact .inr rfl
    · exact .inl hq

theorem grows_makeDirectory {p : Path} {mode : Nat} (h : fs.makeDirectory p mode = .ok fs') :
    Grows fs fs' := by
  unfold makeDirectory makeDirectoryAt at h
  rcases hlocate : fs.locate p.text p.route .entry with e | t
  · rw [hlocate] at h
    cases h
  simp only [hlocate, bind, Except.bind] at h
  rcases hentry : t.entry with _ | old
  · simp only [hentry] at h
    split_ifs at h
    obtain rfl := Except.ok.inj h
    refine grows_insert ?_
    rw [get?_of_lookup (lookup_of_locateNamed hlocate), hentry]
  · rw [hentry] at h
    cases h

/-- What comes after a change was done on what it left, if it did not fail. -/
theorem eq_of_change_bind_ok {f : FileSystem → Except Failure FileSystem}
    {rest : Unit → FileAction β} {b : β} (h : ((Action.change f >>= rest) fs).1 = .ok b) :
    ∃ fs', f fs = .ok fs' ∧ (Action.change f >>= rest) fs = rest () fs' := by
  rw [Action.bind_apply] at h ⊢
  rcases hf : f fs with e | fs'
  · rw [Action.change_apply_error hf] at h
    cases h
  · exact ⟨fs', rfl, by rw [Action.change_apply_ok hf]⟩

theorem growing_query (f : FileSystem → Except Failure α) : Growing (Action.query f) :=
  fun fs => .refl fs

theorem growing_makeDirectory (p : Path) (mode : Nat) :
    Growing (Action.change (·.makeDirectory p mode)) := by
  intro fs
  rcases h : fs.makeDirectory p mode with e | fs'
  · rw [Action.change_apply_error h]
    exact .refl fs
  · rw [Action.change_apply_ok h]
    exact grows_makeDirectory h

theorem Growing.attempt {act : FileAction α} (h : Growing act) : Growing (Action.attempt act) := h

theorem Growing.bind {act : FileAction α} {f : α → FileAction β} (h : Growing act)
    (hf : ∀ a, Growing (f a)) : Growing (act >>= f) := by
  intro fs
  have hact := h fs
  rw [Action.bind_apply]
  generalize act fs = x at hact
  obtain ⟨_ | a, fs'⟩ := x
  · exact hact
  · exact hact.trans (hf a fs')

theorem growing_acceptDirectory (p : Path) (e : Failure) :
    Growing (FileAction.acceptDirectory p e) := by
  unfold FileAction.acceptDirectory
  split
  · refine (growing_query _).bind fun isDirectory => ?_
    split
    · exact growing_query fun _ => .ok ()
    · exact growing_query fun _ => .error e
  · exact growing_query fun _ => .error e

theorem growing_makeDirectoriesTo (anchor : Anchor) (steps : List Step) (mode : Nat) :
    Growing (FileAction.makeDirectoriesTo anchor steps mode) := by
  induction steps generalizing mode with
  | nil =>
    unfold FileAction.makeDirectoriesTo
    refine (growing_makeDirectory _ mode).attempt.bind fun o => ?_
    rcases o with e | _
    · dsimp only
      split
      · exact growing_acceptDirectory _ e
      · exact growing_query fun _ => .error e
    · exact growing_query fun _ => .ok ()
  | cons step outer ih =>
    unfold FileAction.makeDirectoriesTo
    refine (growing_makeDirectory _ mode).attempt.bind fun o => ?_
    rcases o with e | _
    · dsimp only
      split
      · exact growing_acceptDirectory _ e
      · refine (ih _).bind fun _ => (growing_makeDirectory _ mode).attempt.bind fun o => ?_
        rcases o with e' | _
        · dsimp only
          split
          · exact growing_query fun _ => .error e'
          · exact growing_acceptDirectory _ e'
        · exact growing_query fun _ => .ok ()
    · exact growing_query fun _ => .ok ()

theorem Grows.leadsTo (h : Grows fs fs') (hleads : fs.LeadsTo root place) :
    fs'.LeadsTo root place := by
  obtain ⟨mode, hheld⟩ := hleads.held
  have hway := hleads.way 0 .object []
  rw [List.append_nil] at hway
  have hway' := Relation.ReflTransGen.mono (fun _ _ => Advances.of_keeps h.keeps) _ _ hway
  have hstart : fs'.start root = fs.start root := by simp [start, h.workDir]
  refine ⟨mode, ?_⟩
  rw [hstart, comesTo_eq_of_way hway', comesTo, walkLinks_nil, h.keeps _ _ hheld]

theorem Grows.linkFree (h : Grows fs fs') (hfree : LinkFree fs place names) :
    LinkFree fs' place names := by
  intro s hs hne target hlink
  rcases h.added _ _ hlink with hold | hdir
  · exact hfree s hs hne target hold
  · cases hdir

end Growing

namespace NameResolution

section Named

variable {fs fs' : FileSystem} {root : Path} {place : Place} {names : List String} {n : String}

theorem LinkFree.erase (hfree : LinkFree fs place names) (p : Place) :
    LinkFree (fs.erase p) place names := by
  intro s hs hne target hlink
  rw [get?_erase] at hlink
  split_ifs at hlink
  exact hfree s hs hne target hlink

/-- After names that are no links, a name is removed in its place. -/
theorem LinkFree.unlink_eq (hfree : LinkFree fs place names) (hleads : fs.LeadsTo root place)
    (h : fs.unlink (below root (n :: names)) = .ok fs') :
    ∃ e, fs.get? (n :: names ++ place) = some e ∧ e.isDirectory = false ∧
      fs' = fs.erase (n :: names ++ place) := by
  unfold unlink unlinkAt at h
  rcases hlocate : fs.locate (below root (n :: names)).text (below root (n :: names)).route .entry
    with e | t
  · rw [hlocate] at h
    cases h
  have ht := lookup_of_locateNamed hlocate
  rw [lookup_below hleads] at ht
  have ht := hfree.target_eq ht
  simp only [hlocate, bind, Except.bind] at h
  rcases hheld : t.held with o | e
  · rw [hheld] at h
    cases h
  simp only [hheld] at h
  split_ifs at h with _ hdir
  · obtain rfl := Except.ok.inj h
    refine ⟨e, ?_, by simpa using hdir, by rw [ht]⟩
    have hentry := entry_of_held hheld
    rwa [ht] at hentry

/-- And a link is made in its place. -/
theorem LinkFree.makeLink_eq (hfree : LinkFree fs place names) (hleads : fs.LeadsTo root place)
    {goal : String} (h : fs.makeLink goal (below root (n :: names)) = .ok fs') :
    fs.get? (n :: names ++ place) = none ∧
      fs' = fs.insert (n :: names ++ place) (.link goal) := by
  unfold makeLink makeLinkAt at h
  dsimp only at h
  split_ifs at h
  rcases hlocate : fs.locateNamed [goal, (below root (n :: names)).text]
      (below root (n :: names)).text (below root (n :: names)).route .entry with e | t
  · rw [hlocate] at h
    cases h
  have ht := lookup_of_locateNamed hlocate
  rw [lookup_below hleads] at ht
  have ht := hfree.target_eq ht
  simp only [hlocate, bind, Except.bind] at h
  rcases hentry : t.entry with _ | old
  · simp only [hentry] at h
    split_ifs at h
    obtain rfl := Except.ok.inj h
    rw [ht] at hentry
    exact ⟨hentry, by rw [ht]⟩
  · rw [hentry] at h
    cases h

end Named

/-- The link to the name servers is in a directory, and apart from it and the entry that was there
before, everything is kept, and what is added are directories. -/
structure Linked (fs fs' : FileSystem) (dir : Place) : Prop where
  wellFormed : fs'.WellFormed
  link : fs'.get? (fileName :: dir) = some (.link linkText)
  keeps : ∀ q e, q ≠ fileName :: dir → fs.get? q = some e → fs'.get? q = some e
  added : ∀ q e, q ≠ fileName :: dir → fs'.get? q = some e →
    fs.get? q = some e ∨ e.isDirectory = true

section Linked

variable {fs : FileSystem} {root : Path} {place : Place} {names : List String}

theorem linked_of_makeLink {fs₁ fs₂ fs₃ : FileSystem} {dir : Place} (hwf : fs₃.WellFormed)
    (hgrows : Grows fs fs₁) (hsame : ∀ q, q ≠ fileName :: dir → fs₂.get? q = fs₁.get? q)
    (hmade : fs₃ = fs₂.insert (fileName :: dir) (.link linkText)) : Linked fs fs₃ dir := by
  subst hmade
  refine ⟨hwf, by rw [get?_insert, if_pos rfl], fun q e hne hq => ?_, fun q e hne hq => ?_⟩
  · rw [get?_insert, if_neg hne, hsame q hne]
    exact hgrows.keeps q e hq
  · rw [get?_insert, if_neg hne, hsame q hne] at hq
    exact hgrows.added q e hq

/-- The last steps of making sure of the name servers: the link takes the place of what there is
under its name. -/
def putLink (file : Path) : FileAction Bool := do
  if (← get).holds file then Action.change (·.unlink file)
  Action.change (·.makeLink linkText file)
  return true

theorem linked_of_putLink {fs₁ : FileSystem} (hgrows : Grows fs fs₁)
    (hleads : fs₁.LeadsTo root place) (hfree : LinkFree fs₁ place names)
    (hwf : (putLink (below root (fileName :: names)) fs₁).2.WellFormed)
    (h : (putLink (below root (fileName :: names)) fs₁).1 = .ok true) :
    Linked fs (putLink (below root (fileName :: names)) fs₁).2 (names ++ place) := by
  unfold putLink at h hwf ⊢
  rw [Action.bind_apply, Action.get_apply] at h hwf ⊢
  simp only at h hwf ⊢
  split at h
  · rename_i hholds
    rw [if_pos hholds] at hwf ⊢
    obtain ⟨fs₂, hunlink, hrest⟩ := eq_of_change_bind_ok h
    rw [hrest] at h hwf ⊢
    obtain ⟨fs₃, hlink, hrest⟩ := eq_of_change_bind_ok h
    rw [hrest] at hwf ⊢
    obtain ⟨e, hheld, hfile, rfl⟩ := hfree.unlink_eq hleads hunlink
    have hevolves := evolves_erase (List.suffix_append names place) hheld hfile
    refine linked_of_makeLink hwf hgrows (fun q hne => ?_)
      ((hfree.erase _).makeLink_eq (hleads.of_evolves hevolves) hlink).2
    rw [get?_erase]
    exact if_neg hne
  · rename_i hholds
    rw [if_neg hholds] at hwf ⊢
    obtain ⟨fs₃, hlink, hrest⟩ := eq_of_change_bind_ok h
    rw [hrest] at hwf ⊢
    exact linked_of_makeLink hwf hgrows (fun _ _ => rfl) (hfree.makeLink_eq hleads hlink).2

/-- Where names that are no links lead to the directory of the link, the link is made in it. -/
theorem linked_of_ensure (hwf : fs.WellFormed) (hleads : fs.LeadsTo root place)
    (hpath : resolve fs root directory = .ok (below root names)) (hfree : LinkFree fs place names)
    (h : (ensure root fs).1 = .ok true) : Linked fs (ensure root fs).2 (names ++ place) := by
  have htwins : Twins root place place (fileName :: names) fs fs :=
    ⟨⟨hwf, hleads, hfree.stays⟩, ⟨hwf, hleads, hfree.stays⟩, fun _ => rfl⟩
  have hwf' := (makeLinkIn_parallel root place place names fs fs htwins).twins.left.wellFormed
  unfold ensure at h ⊢
  rw [Action.bind_apply, Action.query_apply, hpath] at h ⊢
  simp only at h ⊢
  rw [Action.bind_apply, Action.query_apply] at h ⊢
  rcases hanswer : isNonEmptyFile fs root (directory.child fileName) with e | answer
  · rw [hanswer] at h
    cases h
  cases answer with
  | true =>
    rw [hanswer] at h
    cases h
  | false =>
  simp only [hanswer, Bool.false_eq_true, if_false, child_below] at h ⊢
  rw [Action.bind_apply] at h hwf' ⊢
  have hgrows : Grows fs (FileAction.makeDirectories (below root names) directoryMode fs).2 :=
    growing_makeDirectoriesTo _ _ _ fs
  rcases hmade : FileAction.makeDirectories (below root names) directoryMode fs with ⟨e | _, fs₁⟩
  · rw [hmade] at h
    cases h
  rw [hmade] at hgrows
  simp only [hmade] at h hwf' ⊢
  exact linked_of_putLink hgrows (hgrows.leadsTo hleads) (hgrows.linkFree hfree) hwf' h

end Linked

end NameResolution

end GuestImage
