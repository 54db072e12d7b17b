import GuestImage.Proofs.Mounting

/-!
# The table of mounts

What is mounted where is a matter of the calls that were answered with success: one that mounts adds
the directory to the table, one that unmounts takes it out (`mountTable`). A directory that was just
made is not in it.

To remove a directory that is in the table is to empty the image (`removesMounted`). The population
of an image does so in one case and no other: the call that unmounts failed, and what it wrote reads
as if nothing were mounted (`populate_removesMounted_iff`).
-/

namespace GuestImage.Population

/-- The directories that something is mounted on after one more event. -/
def mountStep (table : List String) : Event → List String
  | .mountpointMade d => table.filter (· ≠ d.text)
  | .called c =>
    match c.outcome, c.argv with
    | .ok r, "mount" :: arguments =>
      if r.ok then arguments.getLast?.toList ++ table else table
    | .ok r, ["umount", d] => if r.ok then table.filter (· ≠ d) else table
    | _, _ => table
  | _ => table

/-- The directories that something is mounted on after some events. -/
def mountTable (table : List String) (events : List Event) : List String :=
  events.foldl mountStep table

/-- Whether an event removes a directory that something is mounted on. -/
def removesFrom (table : List String) : Event → Bool
  | .mountpointRemoved d => table.contains d.text
  | _ => false

/-- Whether some directory is removed while something is mounted on it. -/
def removesMounted : List String → List Event → Bool
  | _, [] => false
  | table, event :: rest => removesFrom table event || removesMounted (mountStep table event) rest

section Table

variable {table : List String}

theorem removesMounted_append (table : List String) (events rest : List Event) :
    removesMounted table (events ++ rest) =
      (removesMounted table events || removesMounted (mountTable table events) rest) := by
  induction events generalizing table with
  | nil => rfl
  | cons event events ih => simp [removesMounted, mountTable, ih, Bool.or_assoc]

/-- Events that leave every table as it is, and remove nothing. -/
def Unconcerned (events : List Event) : Prop :=
  ∀ event ∈ events, (∀ table, mountStep table event = table) ∧ ∀ d, event ≠ .mountpointRemoved d

theorem Unconcerned.mountTable_eq {events : List Event} (h : Unconcerned events) :
    mountTable table events = table := by
  induction events with
  | nil => rfl
  | cons event events ih =>
    have hevent := (h event (List.mem_cons_self ..)).1 table
    have hrest : Unconcerned events := fun e he => h e (List.mem_cons_of_mem _ he)
    rw [mountTable, List.foldl_cons, hevent]
    exact ih hrest

theorem Unconcerned.removesMounted_eq {events : List Event} (h : Unconcerned events) :
    removesMounted table events = false := by
  induction events with
  | nil => rfl
  | cons event events ih =>
    obtain ⟨hstep, hremoved⟩ := h event (List.mem_cons_self ..)
    have hrest : Unconcerned events := fun e he => h e (List.mem_cons_of_mem _ he)
    have hevent : removesFrom table event = false := by
      cases event with
      | mountpointRemoved d => exact absurd rfl (hremoved d)
      | _ => rfl
    rw [removesMounted, hevent, hstep, ih hrest]
    rfl

end Table

theorem unconcerned_of_fills {unpacker : Unpacker} {image : Image} {source : Source} {d : Path}
    {fs : FileSystem} {events : List Event} {outcome : Except Failure Bool}
    (h : Fills unpacker image source d fs events outcome) :
    Unconcerned events ∧ ∀ c, .called c ∈ events → ∀ d, c.argv ≠ ["umount", d] := by
  obtain ⟨o, fs', hunpacks⟩ : ∃ o fs', Unpacker.Unpacks source d fs unpacker events o fs' := by
    cases h with
    | refused unpacks => exact ⟨_, _, unpacks⟩
    | unpacked unpacks => exact ⟨_, _, unpacks⟩
  cases hunpacks with
  | unopened =>
    constructor
    · intro event he
      obtain rfl := List.mem_singleton.1 he
      exact ⟨fun _ => rfl, by simp⟩
    · simp
  | @opened arguments _ c _ argv =>
    constructor
    · intro event he
      simp only [List.mem_cons, List.not_mem_nil, or_false] at he
      rcases he with rfl | rfl | rfl | rfl
      · exact ⟨fun _ => rfl, by simp⟩
      · refine ⟨fun table => ?_, by simp⟩
        rw [mountStep, argv, Unpacker.argv]
        cases c.outcome <;> rfl
      · exact ⟨fun _ => rfl, by simp⟩
      · exact ⟨fun _ => rfl, by simp⟩
    · intro c' hc'
      obtain rfl : c' = c := by simpa using hc'
      rw [argv, Unpacker.argv]
      simp
  | steps => exact ⟨by simp [Unconcerned], by simp⟩

section Calls

variable {image : Image} {d : Path} {table : List String} {c : Call}

theorem mountStep_of_mount (argv : c.argv = mountArgv image d) :
    mountStep table (.called c) =
      if (c.outcome.bind (mountVerdict image d)).isOk then d.text :: table else table := by
  rw [mountStep, argv, mountArgv]
  rcases c.outcome with e | r
  · rfl
  · by_cases hok : r.ok = true
    · simp [Except.bind, mountVerdict, hok, Except.isOk, Except.toBool]
    · simp [Except.bind, mountVerdict, hok, Except.isOk, Except.toBool]

/-- A directory that was just made has nothing mounted on it, until a call mounts an image there. -/
theorem mem_mountTable_iff (table : List String) (argv : c.argv = mountArgv image d) :
    d.text ∈ mountTable table [.mountpointMade d, .called c] ↔
      (c.outcome.bind (mountVerdict image d)).isOk = true := by
  rw [mountTable, List.foldl_cons, List.foldl_cons, List.foldl_nil, mountStep_of_mount argv]
  split
  · simp_all
  · simp_all [mountStep]

theorem mem_mountStep_of_unmount (argv : c.argv = ["umount", d.text]) (h : d.text ∈ table) :
    d.text ∈ mountStep table (.called c) ↔ ∀ r, c.outcome = .ok r → r.ok = false := by
  rw [mountStep, argv]
  rcases c.outcome with e | r
  · simp [h]
  · by_cases hok : r.ok = true
    · simp [hok]
    · simp [hok, h]

theorem isOk_unmountVerdict :
    (c.outcome.bind (unmountVerdict image d)).isOk = true ↔
      ∃ r, c.outcome = .ok r ∧ (r.ok = true ∨ r.isGone = true) := by
  rcases c.outcome with e | r
  · simp [Except.bind, Except.isOk, Except.toBool]
  · by_cases h : r.ok = true ∨ r.isGone = true
    · simp [Except.bind, unmountVerdict, h, Except.isOk, Except.toBool]
    · simp [Except.bind, unmountVerdict, h, Except.isOk, Except.toBool]

/-- Until the call that unmounts, nothing is removed from a mounted directory. -/
theorem removesMounted_held {m u : Call} {inside : List Event} (h : Unconcerned inside)
    (rest : List Event) :
    removesMounted table (.mountpointMade d :: .called m :: (inside ++ .called u :: rest)) =
      removesMounted (mountStep (mountTable table [.mountpointMade d, .called m]) (.called u))
        rest := by
  have hbefore : removesMounted table [.mountpointMade d, .called m] = false := by
    simp [removesMounted, removesFrom]
  have happend := removesMounted_append table [.mountpointMade d, .called m]
    (inside ++ .called u :: rest)
  refine happend.trans ?_
  rw [hbefore, Bool.false_or, removesMounted_append, h.removesMounted_eq, Bool.false_or,
    h.mountTable_eq, removesMounted]
  rfl

theorem eq_of_unmounts {m u : Call} {inside rest : List Event} {d' : String}
    (argv : m.argv = mountArgv image d)
    (hinside : ∀ c, .called c ∈ inside → ∀ d, c.argv ≠ ["umount", d])
    (hrest : ∀ c, .called c ∉ rest)
    (hc : .called c ∈ Event.mountpointMade d :: .called m :: (inside ++ .called u :: rest))
    (hargv : c.argv = ["umount", d']) : c = u := by
  simp only [List.mem_cons, List.mem_append, reduceCtorEq, false_or, Event.called.injEq, hrest,
    or_false] at hc
  rcases hc with rfl | hc | rfl
  · rw [argv, mountArgv] at hargv
    simp at hargv
  · exact absurd hargv (hinside c hc d')
  · rfl

end Calls

/-- The directory an image was populated on is removed while the image is mounted on it exactly if
the call that unmounts failed and what it wrote reads as if nothing were mounted. -/
theorem populate_removesMounted_iff {σ : Type} (runner : Runner σ) (unpacker : Unpacker)
    (dir : Path) (image : Image) (source : Source) (w : Run σ) (table : List String) :
    ∃ events, (populate runner unpacker dir image source w).2.history = w.history ++ events ∧
      (removesMounted table events = true ↔
        ∃ c d r, .called c ∈ events ∧ c.argv = ["umount", d] ∧ c.outcome = .ok r ∧
          r.ok = false ∧ r.isGone = true) := by
  obtain ⟨events, hhistory, hpopulates⟩ := adds_populates runner unpacker dir image source w
  refine ⟨events, hhistory, ?_⟩
  generalize (populate runner unpacker dir image source w).1 = outcome at hpopulates
  cases hpopulates with
  | unmade => simp [removesMounted]
  | @unmounted d m e fresh argv refused =>
    have hfree := mem_mountTable_iff table argv
    rw [refused] at hfree
    have hremoves : removesMounted table [.mountpointMade d, .called m, .mountpointRemoved d] =
        (mountTable table [.mountpointMade d, .called m]).contains d.text := by
      simp [removesMounted, removesFrom, mountTable]
    constructor
    · intro h
      rw [hremoves, List.contains_iff_mem, hfree] at h
      cases h
    · rintro ⟨c, d', r, hc, hargv, -⟩
      obtain rfl : c = m := by simpa using hc
      rw [argv, mountArgv] at hargv
      simp at hargv
  | @mounted d m u inside o fresh argv accepted fills release =>
    obtain ⟨hunconcerned, hinside⟩ := unconcerned_of_fills fills
    have hmounted := (mem_mountTable_iff table argv).2 (by rw [accepted]; rfl)
    rw [removesMounted_held hunconcerned]
    split
    · rename_i hreleased
      obtain ⟨r, hanswer, hr⟩ := isOk_unmountVerdict.1 hreleased
      have hlast : ∀ t, removesMounted t [.mountpointRemoved d] = t.contains d.text := by
        simp [removesMounted, removesFrom]
      rw [hlast, List.contains_iff_mem, mem_mountStep_of_unmount release hmounted]
      constructor
      · intro hfailed
        have hok := hfailed r hanswer
        exact ⟨u, d.text, r, by simp, release, hanswer, hok, hr.resolve_left (by simp [hok])⟩
      · rintro ⟨c, d', r', hc, hargv, hanswer', hfailed, -⟩ r'' hanswer''
        obtain rfl := eq_of_unmounts argv hinside (by simp) hc hargv
        rw [hanswer'] at hanswer''
        obtain rfl := Except.ok.inj hanswer''
        exact hfailed
    · rename_i hheld
      constructor
      · intro h
        cases h
      · rintro ⟨c, d', r, hc, hargv, hanswer, -, hgone⟩
        obtain rfl := eq_of_unmounts argv hinside (by simp) hc hargv
        exact absurd (isOk_unmountVerdict.2 ⟨r, hanswer, .inr hgone⟩) hheld

/-- A runner whose calls all succeed, except that it does not know the tool that unmounts. -/
def withoutUnmount : Runner Unit where
  run argv _ s :=
    (⟨.ok (if argv.head? = some "umount" then
        { argv, exitStatus := 1, stderr := "sudo: umount: command not found\n" }
      else { argv, exitStatus := 0 }), none⟩, s)
  ensureAvailable _ _ := .ok ()

/-- A tool that is not found is taken for an image that is not mounted, and the image is emptied. -/
theorem populate_withoutUnmount_removesMounted :
    removesMounted [] (populate withoutUnmount (.steps fun _ _ => pure ()) ⟨.top, []⟩
      { uid := "guest", objectPath := ⟨.top, [.name "image"]⟩ } (.ofStream ⟨[], none⟩)
      { files := FileSystem.bare [], runner := () }).2.history = true := by
  decide +kernel

end GuestImage.Population
