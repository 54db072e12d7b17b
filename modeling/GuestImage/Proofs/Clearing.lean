import GuestImage.Proofs.Mounting
import GuestImage.Proofs.Spelling

/-!
# Clearing a directory away

A directory is removed with all that is in it as far as that can be done (`removed_removeTree`). All
of it goes just when nothing is mounted on any of it, and whoever removes it may look into the
directories and change those that anything is in, the one around it among them (`Clearable`).

That is what is removed by the path of a directory that was made fresh, as long as nothing of what
was there before is missing (`makeMountpoint_made`).
-/

namespace GuestImage

namespace FileSystem

/-- All of a directory can be removed: nothing of it is busy, the directories may be looked into,
and those that anything is in may be changed. -/
structure Clearable (fs : FileSystem) (busy : Place → Bool) (place : Place) : Prop where
  idle : ∀ x ∈ fs.entries, place <:+ x.1 → busy x.1 = false
  looks : ∀ x ∈ fs.entries, place <:+ x.1 → x.2.isDirectory = true → x.2.permits .read = true
  changes : ∀ x ∈ fs.entries, place <:+ x.1 →
    fs.permits x.1.tail .write = true ∧ fs.permits x.1.tail .search = true

/-- The directory at a place was removed, as far as that can be done. What something is mounted on
stays, and so does what that is in. -/
structure Removed (fs : FileSystem) (busy : Place → Bool) (place : Place) (fs' : FileSystem) :
    Prop where
  each : ∀ q, fs'.get? q = if fs.goesWith busy place q then none else fs.get? q
  outside : ∀ q, ¬ place <:+ q → fs'.get? q = fs.get? q
  mounted : ∀ q r e, q <:+ r → fs.get? r = some e → busy r = true → fs'.get? q = fs.get? q
  gone_iff : (∀ q, place <:+ q → fs'.get? q = none) ↔ fs.Clearable busy place

/-- There still is a directory at a place, and all that was there before it was made. -/
structure Spares (fs : FileSystem) (place : Place) (before : FileSystem) : Prop where
  keeps : ∀ q e, before.get? q = some e → fs.get? q = some e
  workDir : fs.workDir = before.workDir
  directory : ∃ mode, fs.get? place = some (.directory mode)
  wellFormed : fs.WellFormed

section Removal

variable {fs : FileSystem} {busy : Place → Bool} {place : Place}

/-- Whoever may look into the directories and search them gets to each of them. -/
theorem Clearable.enters (h : fs.Clearable busy place) (hwf : fs.WellFormed) :
    ∀ {dir : Place} {mode : Nat}, fs.get? dir = some (.directory mode) → place <:+ dir →
      fs.entersFrom place dir = true
  | [], mode, held, hbelow => by
    have hread := h.looks _ (mem_entries_of_get? held) hbelow rfl
    rw [entersFrom, permits, held, List.suffix_nil.1 hbelow]
    simpa using hread
  | name :: dir, mode, held, hbelow => by
    have hread := h.looks _ (mem_entries_of_get? held) hbelow rfl
    have hsearch := (h.changes _ (mem_entries_of_get? held) hbelow).2
    rw [entersFrom, permits, held]
    rcases List.suffix_cons_iff.1 hbelow with heq | hbelow
    · simpa [heq] using hread
    · obtain ⟨mode', hdir⟩ := hwf.parent _ _ _ held
      have henters := Clearable.enters h hwf hdir hbelow
      simp only [List.tail_cons] at hsearch
      simpa [henters, hsearch] using hread

theorem Clearable.isRemovable (h : fs.Clearable busy place) {x : Place × Entry}
    (hx : x ∈ fs.entries) (hbelow : place <:+ x.1) : fs.isRemovable busy x.1 x.2 = true := by
  obtain ⟨hwrite, hsearch⟩ := h.changes x hx hbelow
  rw [FileSystem.isRemovable, hwrite, hsearch, h.idle x hx hbelow]
  cases hdir : x.2.isDirectory with
  | false => rfl
  | true => simpa using h.looks x hx hbelow hdir

theorem Clearable.goesWith (h : fs.Clearable busy place) (hwf : fs.WellFormed) {q : Place}
    {e : Entry} (held : fs.get? q = some e) (hbelow : place <:+ q) :
    fs.goesWith busy place q = true := by
  have hall :
      (fs.entries.all fun x => !q.isSuffixOf x.1 || fs.isRemovable busy x.1 x.2) = true := by
    rw [List.all_eq_true]
    intro x hx
    by_cases hsuffix : q.isSuffixOf x.1 = true
    · have := h.isRemovable hx (hbelow.trans (List.isSuffixOf_iff_suffix.1 hsuffix))
      simp [this]
    · simp [hsuffix]
  have hsuffix : place.isSuffixOf q = true := List.isSuffixOf_iff_suffix.2 hbelow
  rw [FileSystem.goesWith, hall, hsuffix]
  by_cases heq : q = place
  · simp [heq]
  · cases q with
    | nil => exact absurd (List.suffix_nil.1 hbelow).symm heq
    | cons name dir =>
      obtain ⟨mode, hdir⟩ := hwf.parent _ _ _ held
      have henters := h.enters hwf hdir
        ((List.suffix_cons_iff.1 hbelow).resolve_left (Ne.symm heq))
      simp [henters]

/-- What goes can be removed, and all below it. -/
theorem isRemovable_of_goesWith {q : Place} (h : fs.goesWith busy place q = true)
    {x : Place × Entry} (hx : x ∈ fs.entries) (hbelow : q <:+ x.1) :
    fs.isRemovable busy x.1 x.2 = true := by
  simp only [goesWith, Bool.and_eq_true, List.all_eq_true, Bool.or_eq_true] at h
  refine (h.2 x hx).resolve_left ?_
  simpa using List.isSuffixOf_iff_suffix.2 hbelow

theorem clearable_of_goesWith (h : fs.goesWith busy place place = true) :
    fs.Clearable busy place := by
  constructor
  · intro x hx hbelow
    have := isRemovable_of_goesWith h hx hbelow
    simp only [isRemovable, Bool.and_eq_true, Bool.not_eq_true'] at this
    exact this.1.1.1
  · intro x hx hbelow hdir
    have := isRemovable_of_goesWith h hx hbelow
    rw [isRemovable, hdir] at this
    simp only [Bool.not_true, Bool.false_or, Bool.and_eq_true] at this
    exact this.1.1.2
  · intro x hx hbelow
    have := isRemovable_of_goesWith h hx hbelow
    simp only [isRemovable, Bool.and_eq_true] at this
    exact ⟨this.1.2, this.2⟩

theorem goesWith_of_busy {q r : Place} {e : Entry} (hbelow : q <:+ r) (held : fs.get? r = some e)
    (hbusy : busy r = true) : fs.goesWith busy place q = false := by
  by_contra hgoes
  have := isRemovable_of_goesWith (Bool.of_not_eq_false hgoes) (mem_entries_of_get? held) hbelow
  simp [isRemovable, hbusy] at this

/-- Where the path of a directory leads to it, it is removed with all that is in it, as far as that
can be done. -/
theorem removed_removeTree {p : Path} {mode : Nat} (hwf : fs.WellFormed)
    (h : fs.locate p.text p.route .entry = .ok ⟨place, some (.directory mode), false⟩) :
    fs.Removed busy place (fs.removeTree busy p) := by
  have htree : fs.removeTree busy p =
      { fs with entries := fs.entries.filter fun x => !fs.goesWith busy place x.1 } := by
    rw [removeTree, removeTreeAt, h]
  have hheld : fs.get? place = some (.directory mode) :=
    get?_of_lookup (lookup_of_locateNamed h)
  have heach : ∀ q, (fs.removeTree busy p).get? q =
      if fs.goesWith busy place q then none else fs.get? q := by
    intro q
    rw [htree]
    split
    · rename_i hgoes
      exact lookup_filter_eq_none (by simp [hgoes]) _
    · rename_i hstays
      exact lookup_filter (by simp [hstays]) _
  refine ⟨heach, fun q hq => ?_, fun q r e hbelow held hbusy => ?_, fun hgone => ?_,
    fun hclear q hq => ?_⟩
  · rw [heach, if_neg]
    simp [goesWith, List.isSuffixOf_iff_suffix, hq]
  · rw [heach, goesWith_of_busy hbelow held hbusy, if_neg Bool.false_ne_true]
  · by_contra hnot
    have hself := hgone place List.suffix_rfl
    rw [heach, if_neg (fun hgoes => hnot (clearable_of_goesWith hgoes)), hheld] at hself
    cases hself
  · rw [heach]
    rcases hq' : fs.get? q with _ | e
    · simp
    · rw [if_pos (hclear.goesWith hwf hq' hq)]

end Removal

end FileSystem

namespace Population

variable {σ : Type} {fs fs' : FileSystem} {text : String} {d : Path}

/-- A directory was made at a place, and to remove what its path leads to is to remove it, as long
as nothing of what was there before is removed. -/
structure MadeAt (fs : FileSystem) (d : Path) (place : Place) (fs' : FileSystem) : Prop where
  free : fs.get? place = none
  inserts : ∃ mode, fs' = fs.insert place (.directory mode)
  removed : ∀ (last : FileSystem) (busy : Place → Bool), last.Spares place fs →
    last.Removed busy place (last.removeTree busy d)

theorem exists_made {name : String} (hname : name.toList.head? ≠ some '/')
    (h : fs.makeDirectoryAt (Path.joinText (Path.ofText text).text name)
      ((Path.ofText text).child name).route mountpointMode = .ok fs') :
    ∃ place, MadeAt fs ((Path.ofText text).child name) place fs' := by
  unfold FileSystem.makeDirectoryAt at h
  rcases hlocate : fs.locate (Path.joinText (Path.ofText text).text name)
    ((Path.ofText text).child name).route .entry with e | t
  · rw [hlocate] at h
    cases h
  obtain ⟨dir, hnames, search, hshort, rfl⟩ :=
    FileSystem.exists_of_lookup_child (FileSystem.lookup_of_locateNamed hlocate)
  have hask : ((Path.ofText text).child name).Askable := by
    unfold FileSystem.locate FileSystem.locateNamed at hlocate
    split_ifs at hlocate with hnul hsize
    exact Path.askable_child hname (by simpa using hnul) (by omega)
  simp only [hlocate, bind, Except.bind, List.tail_cons] at h
  rcases hfree : fs.get? (name :: dir) with _ | e
  · by_cases writable : fs.permits dir .write = true
    · simp only [hfree, writable, Bool.not_true, Bool.false_eq_true, if_false] at h
      refine ⟨name :: dir, hfree, ⟨_, (Except.ok.inj h).symm⟩, fun last busy hspares => ?_⟩
      obtain ⟨mode, held⟩ := hspares.directory
      have hnames' := hnames.of_keeps hspares.workDir hspares.keeps
      have hlocate : last.locate ((Path.ofText text).child name).text
          ((Path.ofText text).child name).route .entry =
            .ok ⟨name :: dir, some (.directory mode), false⟩ := by
        rw [FileSystem.locate_of_askable hask, hnames'.lookup_child,
          FileSystem.comesTo_child (search.of_keeps hspares.keeps) hshort, held]
        rfl
      exact FileSystem.removed_removeTree hspares.wellFormed hlocate
    · simp only [hfree, writable, Bool.not_false, if_true] at h
      cases h
  · rw [hfree] at h
    cases h

/-- The names that are tried start with a stem, and so with no slash. -/
theorem makeFreshDirectory_made (tries : Nat) : ∀ w w' : Run σ,
    makeFreshDirectory (Path.ofText text) tries w = (.ok d, w') →
      ∃ place, MadeAt w.files d place w'.files := by
  induction tries with
  | zero => exact fun _ _ h => nomatch h
  | succ tries ih =>
    intro w w' h
    rw [makeFreshDirectory_succ] at h
    dsimp only at h
    split at h
    · rename_i fs hmade
      obtain ⟨hd, rfl⟩ := Prod.mk.inj h
      obtain rfl := Except.ok.inj hd
      exact exists_made (by simp [mountpointStem, String.toList_append]) hmade
    · split at h
      · exact ih { w with nextTemporary := w.nextTemporary + 1 } w' h
      · cases h

theorem makeMountpoint_made {image : Image} {w w' : Run σ}
    (h : makeMountpoint image (Path.ofText text) w = (.ok d, w')) :
    ∃ place, MadeAt w.files d place w'.files := by
  unfold makeMountpoint at h
  rw [Action.bind_apply, Action.attempt_apply] at h
  rcases hfresh : makeFreshDirectory (Path.ofText text) maxTries w with ⟨⟨fault, causes⟩ | d', w₁⟩
  · rw [hfresh] at h
    cases fault with
    | _ => cases h
  · rw [hfresh] at h
    obtain ⟨hd, rfl⟩ := Prod.mk.inj h
    obtain rfl := Except.ok.inj hd
    exact makeFreshDirectory_made maxTries w w₁ hfresh

end Population

end GuestImage
