import GuestImage.Proofs.Enclosure

/-!
# Two hosts side by side

Two hosts that hold the same tree below their roots stay so if every step on their files depends on
the tree alone and changes nothing else. `Parallel` says this of an action: from such hosts it ends
alike on both, and either host evolves below its root only. Actions that are put together of
parallel ones are parallel.
-/

namespace GuestImage

open FileSystem
open NameResolution (below)

/-- Two hosts with the same tree below their roots, in which the lookup of a path stays below. -/
structure Twins (root : Path) (place₁ place₂ : Place) (names : List String)
    (fs₁ fs₂ : FileSystem) : Prop where
  left : fs₁.Enclosed root place₁ names
  right : fs₂.Enclosed root place₂ names
  same : SameTree place₁ fs₁ place₂ fs₂

/-- What an action comes to on two hosts: the same outcome, and hosts that are twins again and
changed below their roots alone. -/
structure Together {α : Type} (root : Path) (place₁ place₂ : Place) (names : List String)
    (fs₁ fs₂ : FileSystem) (x₁ x₂ : Except Failure α × FileSystem) : Prop where
  outcome : x₁.1 = x₂.1
  twins : Twins root place₁ place₂ names x₁.2 x₂.2
  left : Evolves place₁ fs₁ x₁.2
  right : Evolves place₂ fs₂ x₂.2

/-- An action that comes to the same on twins. -/
def Parallel {α : Type} (root : Path) (place₁ place₂ : Place) (names : List String)
    (act : FileAction α) : Prop :=
  ∀ fs₁ fs₂, Twins root place₁ place₂ names fs₁ fs₂ →
    Together root place₁ place₂ names fs₁ fs₂ (act fs₁) (act fs₂)

namespace Parallel

variable {α β : Type} {root : Path} {place₁ place₂ : Place} {names : List String}

theorem of_query {f : FileSystem → Except Failure α}
    (h : ∀ fs₁ fs₂, Twins root place₁ place₂ names fs₁ fs₂ → f fs₁ = f fs₂) :
    Parallel root place₁ place₂ names (Action.query f) :=
  fun fs₁ fs₂ htwins => ⟨h fs₁ fs₂ htwins, htwins, .refl _ _, .refl _ _⟩

theorem pure (a : α) : Parallel root place₁ place₂ names (pure a) :=
  of_query (f := fun _ => .ok a) fun _ _ _ => rfl

theorem throw (e : Failure) :
    Parallel root place₁ place₂ names (throw e : FileAction α) :=
  of_query (f := fun _ => .error e) fun _ _ _ => rfl

theorem bind {act : FileAction α} {f : α → FileAction β}
    (h : Parallel root place₁ place₂ names act)
    (hf : ∀ a, Parallel root place₁ place₂ names (f a)) :
    Parallel root place₁ place₂ names (act >>= f) := by
  intro fs₁ fs₂ htwins
  have hact := h fs₁ fs₂ htwins
  rw [Action.bind_apply, Action.bind_apply]
  generalize act fs₁ = x₁ at hact
  generalize act fs₂ = x₂ at hact
  obtain ⟨o, fs₁'⟩ := x₁
  obtain ⟨_, fs₂'⟩ := x₂
  obtain ⟨rfl, htwins', hleft, hright⟩ := hact
  cases o with
  | error e => exact ⟨rfl, htwins', hleft, hright⟩
  | ok a =>
    have hrest := hf a fs₁' fs₂' htwins'
    exact ⟨hrest.outcome, hrest.twins, hleft.trans hrest.left, hright.trans hrest.right⟩

theorem attempt {act : FileAction α} (h : Parallel root place₁ place₂ names act) :
    Parallel root place₁ place₂ names (Action.attempt act) := by
  intro fs₁ fs₂ htwins
  have hact := h fs₁ fs₂ htwins
  exact ⟨congrArg Except.ok hact.outcome, hact.twins, hact.left, hact.right⟩

/-- What is done next may depend on a question about the files that twins answer alike. -/
theorem get_bind {f : FileSystem → FileAction α}
    (halike : ∀ fs₁ fs₂, Twins root place₁ place₂ names fs₁ fs₂ → f fs₁ = f fs₂)
    (h : ∀ fs, Parallel root place₁ place₂ names (f fs)) :
    Parallel root place₁ place₂ names (get >>= f) := by
  intro fs₁ fs₂ htwins
  rw [Action.bind_apply, Action.bind_apply, Action.get_apply, Action.get_apply]
  simp only [← halike fs₁ fs₂ htwins]
  exact h fs₁ fs₁ fs₂ htwins

end Parallel

section Operations

variable {root : Path} {place₁ place₂ : Place} {names more : List String} {fs₁ fs₂ : FileSystem}
  {goal : Goal}

theorem Twins.locateNamed (h : Twins root place₁ place₂ (more ++ names) fs₁ fs₂) (goal : Goal)
    (hgoal : more ≠ [] ∨ goal = .entry) (files : List String) (text : String) :
    ∃ r : Except Failure Target,
      fs₁.locateNamed files text (below root names).route goal = r.map (.under place₁) ∧
      fs₂.locateNamed files text (below root names).route goal = r.map (.under place₂) := by
  have hstays : ∀ {fs : FileSystem} {place : Place}, fs.Enclosed root place (more ++ names) →
      fs.Stays place goal (standingAt place names) := by
    intro fs place henc
    by_cases hmore : more = []
    · subst hmore
      obtain rfl := hgoal.resolve_left (by simp)
      exact henc.stays
    · have := henc.stays
      rw [standingAt_append] at this
      exact this.outer (map_name_ne_nil hmore)
  obtain ⟨r, h₁, h₂⟩ := comesTo_sameTree h.same maxLinks (names.reverse.map .name) false []
    (hstays h.left) (hstays h.right)
  unfold FileSystem.locateNamed
  rw [lookup_below h.left.leads, lookup_below h.right.leads]
  split_ifs
  · exact ⟨.error ⟨.badValue "embedded null byte", []⟩, rfl, rfl⟩
  · exact ⟨.error (Obstacle.nameTooLong.failure files), rfl, rfl⟩
  · refine ⟨r.mapError (·.failure files), ?_, ?_⟩
    · exact (congrArg _ h₁).trans (by cases r <;> rfl)
    · exact (congrArg _ h₂).trans (by cases r <;> rfl)

theorem Target.held_under (t : Target) (place : Place) : (t.under place).held = t.held := rfl

theorem Twins.find (h : Twins root place₁ place₂ (more ++ names) fs₁ fs₂)
    (hgoal : more ≠ [] ∨ goal = .entry) :
    fs₁.entryAt (below root names) goal = fs₂.entryAt (below root names) goal := by
  obtain ⟨r, h₁, h₂⟩ := h.locateNamed goal hgoal [(below root names).text]
    (below root names).text
  unfold entryAt FileSystem.find locate
  rw [h₁, h₂]
  cases r <;> rfl

theorem exists_way_of_absent_under {fs : FileSystem} {place : Place} {files : List String}
    {text : String} {t : Target} (h : fs.Enclosed root place (more ++ names))
    (hlocate : fs.locateNamed files text (below root names).route .entry = .ok (t.under place))
    (ht : t.entry = none) :
    ∃ name p, t.place = name :: p ∧
      (∃ links, Relation.ReflTransGen (Advances fs [] .entry) (standingAt place names)
        ⟨links, false, p ++ place, [.name name]⟩) ∧
      fs.Searchable (p ++ place) ∧ fs.get? (name :: (p ++ place)) = none := by
  have hcomes := lookup_of_locateNamed hlocate
  rw [lookup_below h.leads] at hcomes
  obtain ⟨links, n, dir, hplace, hway, search, free⟩ :=
    exists_way_of_absent h.wellFormed h.leads hcomes ht
  have hbelow : place <:+ dir := by
    by_cases hmore : more = []
    · subst hmore
      exact (h.stays.of_way hway).dir
    · have hstays := h.stays
      rw [standingAt_append] at hstays
      exact ((hstays.outer (map_name_ne_nil hmore)).of_way hway).dir
  obtain ⟨p, rfl⟩ := hbelow
  exact ⟨n, p, List.append_cancel_right hplace, ⟨links, hway⟩, search, free⟩

/-- Twins stay twins when the same entry is made where a path, or the start of it, leads to
nothing. -/
theorem Twins.insert (h : Twins root place₁ place₂ (more ++ names) fs₁ fs₂)
    {files : List String} {text : String} {t : Target}
    (h₁ : fs₁.locateNamed files text (below root names).route .entry = .ok (t.under place₁))
    (h₂ : fs₂.locateNamed files text (below root names).route .entry = .ok (t.under place₂))
    (ht : t.entry = none) {e : Entry} (he : more = [] ∨ ∀ target, e ≠ .link target) :
    Together root place₁ place₂ (more ++ names) fs₁ fs₂
      ((.ok () : Except Failure Unit), fs₁.insert (t.under place₁).place e)
      ((.ok () : Except Failure Unit), fs₂.insert (t.under place₂).place e) := by
  obtain ⟨n, p, hplace, ⟨links₁, hway₁⟩, search₁, free₁⟩ := exists_way_of_absent_under h.left h₁ ht
  obtain ⟨n', p', hplace', ⟨links₂, hway₂⟩, search₂, free₂⟩ :=
    exists_way_of_absent_under h.right h₂ ht
  obtain ⟨rfl, rfl⟩ := List.cons.inj (hplace.symm.trans hplace')
  obtain ⟨henc₁, hev₁⟩ := h.left.insert hway₁ search₁ free₁ he
  obtain ⟨henc₂, hev₂⟩ := h.right.insert hway₂ search₂ free₂ he
  simp only [Target.under, hplace]
  exact ⟨rfl, ⟨henc₁, henc₂, h.same.insert (n :: p) e⟩, hev₁, hev₂⟩

theorem Twins.get?_tail (h : Twins root place₁ place₂ (more ++ names) fs₁ fs₂)
    {files : List String} {text : String} {t : Target}
    (h₁ : fs₁.locateNamed files text (below root names).route .entry = .ok (t.under place₁))
    (ht : t.entry = none) :
    fs₁.get? (t.under place₁).place.tail = fs₂.get? (t.under place₂).place.tail := by
  obtain ⟨n, p, hplace, -⟩ := exists_way_of_absent_under h.left h₁ ht
  simp only [Target.under, hplace]
  exact h.same p

theorem permits_eq_of_get? {p₁ p₂ : Place} (h : fs₁.get? p₁ = fs₂.get? p₂) (right : Right) :
    fs₁.permits p₁ right = fs₂.permits p₂ right := by
  rw [permits, permits, h]

theorem together_of_error {α : Type} (h : Twins root place₁ place₂ names fs₁ fs₂) (e : Failure) :
    Together root place₁ place₂ names fs₁ fs₂ ((.error e : Except Failure α), fs₁)
      (.error e, fs₂) :=
  ⟨rfl, h, .refl _ _, .refl _ _⟩

theorem makeDirectory_parallel (hmore : more ≠ []) (mode : Nat) :
    Parallel root place₁ place₂ (more ++ names)
      (Action.change (·.makeDirectory (below root names) mode)) := by
  intro fs₁ fs₂ h
  obtain ⟨r, h₁, h₂⟩ := h.locateNamed .entry (.inl hmore) [(below root names).text]
    (below root names).text
  unfold Action.change makeDirectory makeDirectoryAt locate
  simp only [h₁, h₂]
  rcases r with e | t
  · exact together_of_error h e
  simp only [Except.map, bind, Except.bind]
  have hentry : ∀ place, (t.under place).entry = t.entry := fun _ => rfl
  rw [hentry, hentry]
  rcases ht : t.entry with _ | old
  · have htail := h.get?_tail h₁ ht
    simp only [permits_eq_of_get? htail, htail]
    split_ifs
    · exact together_of_error h _
    · exact h.insert h₁ h₂ ht (.inr (by simp))
  · exact together_of_error h _

theorem makeLink_parallel (target : String) :
    Parallel root place₁ place₂ names (Action.change (·.makeLink target (below root names))) := by
  intro fs₁ fs₂ h
  have h : Twins root place₁ place₂ ([] ++ names) fs₁ fs₂ := h
  obtain ⟨r, h₁, h₂⟩ := h.locateNamed .entry (.inr rfl) [target, (below root names).text]
    (below root names).text
  unfold Action.change makeLink makeLinkAt
  simp only [h₁, h₂]
  split_ifs
  · exact together_of_error h _
  · exact together_of_error h _
  · exact together_of_error h _
  rcases r with e | t
  · exact together_of_error h e
  simp only [Except.map, bind, Except.bind]
  have hentry : ∀ place, (t.under place).entry = t.entry := fun _ => rfl
  rw [hentry, hentry]
  rcases ht : t.entry with _ | old
  · have htail := h.get?_tail h₁ ht
    simp only [permits_eq_of_get? htail]
    split_ifs
    · exact together_of_error h _
    · exact h.insert h₁ h₂ ht (.inl rfl)
  · exact together_of_error h _

theorem unlink_parallel {n : String} :
    Parallel root place₁ place₂ (n :: names)
      (Action.change (·.unlink (below root (n :: names)))) := by
  intro fs₁ fs₂ h
  have hnone : Twins root place₁ place₂ ([] ++ n :: names) fs₁ fs₂ := h
  obtain ⟨r, h₁, h₂⟩ := hnone.locateNamed .entry (.inr rfl) [(below root (n :: names)).text]
    (below root (n :: names)).text
  unfold Action.change unlink unlinkAt locate
  simp only [h₁, h₂]
  rcases r with e | t
  · exact together_of_error h e
  simp only [Except.map, bind, Except.bind, Target.held_under]
  rcases hheld : t.held with o | e
  · exact together_of_error h _
  have hcomes₁ := lookup_of_locateNamed h₁
  have hcomes₂ := lookup_of_locateNamed h₂
  rw [lookup_below h.left.leads] at hcomes₁
  rw [lookup_below h.right.leads] at hcomes₂
  have hentry : t.entry = some e := entry_of_held hheld
  obtain ⟨dir, hplace, p, rfl⟩ := h.left.inside hcomes₁
  have htail : fs₁.get? (t.under place₁).place.tail = fs₂.get? (t.under place₂).place.tail := by
    have ht : t.place = n :: p := List.append_cancel_right hplace
    simp only [Target.under, ht]
    exact h.same p
  have hslashed : ∀ place, (t.under place).slashed = t.slashed := fun _ => rfl
  simp only [permits_eq_of_get? htail, hslashed]
  split_ifs with hdenied hdir
  · exact together_of_error h _
  · exact together_of_error h _
  · obtain ⟨henc₁, hev₁⟩ := h.left.erase hcomes₁ hentry (by simpa using hdir)
    obtain ⟨henc₂, hev₂⟩ := h.right.erase hcomes₂ hentry (by simpa using hdir)
    exact ⟨rfl, ⟨henc₁, henc₂, h.same.erase t.place⟩, hev₁, hev₂⟩

theorem Twins.isDirectoryAt (h : Twins root place₁ place₂ (more ++ names) fs₁ fs₂)
    (hmore : more ≠ []) :
    fs₁.isDirectoryAt (below root names) = fs₂.isDirectoryAt (below root names) := by
  unfold FileSystem.isDirectoryAt
  rw [h.find (.inl hmore)]

theorem acceptDirectory_parallel (hmore : more ≠ []) (e : Failure) :
    Parallel root place₁ place₂ (more ++ names)
      (FileAction.acceptDirectory (below root names) e) := by
  unfold FileAction.acceptDirectory
  split
  · refine .bind (.of_query fun _ _ h => h.isDirectoryAt hmore) ?_
    intro isDirectory
    split
    · exact .pure ()
    · exact .throw e
  · exact .throw e

/-- The root is there, so that making it fails, and not for want of what it is in. -/
theorem exists_makeDirectory_root (root : Path) (mode : Nat) :
    ∃ e : Failure, e.isMissing = false ∧ ∀ (fs : FileSystem) (place : Place),
      fs.LeadsTo root place → fs.makeDirectory (below root []) mode = .error e := by
  have hlook : ∀ (fs : FileSystem) (place : Place), fs.LeadsTo root place →
      ∃ m, fs.lookup [] fs.workDir (below root []).route .entry =
        .ok ⟨place, some (.directory m), false⟩ := by
    intro fs place h
    obtain ⟨m, hm⟩ := h.held
    refine ⟨m, ?_⟩
    rw [lookup_below h, standingAt, comesTo]
    exact (walkLinks_nil ..).trans (by rw [hm])
  unfold makeDirectory makeDirectoryAt locate locateNamed
  split_ifs
  · exact ⟨_, rfl, fun _ _ _ => rfl⟩
  · exact ⟨_, rfl, fun _ _ _ => rfl⟩
  · refine ⟨Obstacle.present.failure [(below root []).text], rfl, ?_⟩
    intro fs place h
    obtain ⟨m, hm⟩ := hlook fs place h
    rw [hm]
    rfl

theorem makeDirectoriesTo_parallel (mode : Nat) (hmore : more ≠ []) :
    Parallel root place₁ place₂ (more ++ names)
      (FileAction.makeDirectoriesTo root.anchor (names.map .name ++ root.steps.reverse) mode) := by
  have hpath : ∀ names : List String,
      (⟨root.anchor, (names.map Step.name ++ root.steps.reverse).reverse⟩ : Path) =
        below root names := by
    intro names
    simp [below, Path.join]
  induction names generalizing more mode with
  | nil =>
    intro fs₁ fs₂ h
    obtain ⟨e, he, hroot⟩ := exists_makeDirectory_root root mode
    have hact : ∀ (fs : FileSystem) (place : Place), fs.LeadsTo root place →
        FileAction.makeDirectoriesTo root.anchor ([].map .name ++ root.steps.reverse) mode fs =
          FileAction.acceptDirectory (below root []) e fs := by
      intro fs place hleads
      unfold FileAction.makeDirectoriesTo
      rw [hpath, Action.bind_apply, Action.attempt_apply,
        Action.change_apply_error (hroot fs place hleads)]
      simp only [he, Bool.not_false, if_true]
    rw [hact fs₁ place₁ h.left.leads, hact fs₂ place₂ h.right.leads]
    exact acceptDirectory_parallel hmore e fs₁ fs₂ h
  | cons n names ih =>
    have hmake : Parallel root place₁ place₂ (more ++ n :: names)
        (Action.change (·.makeDirectory (below root (n :: names)) mode)) :=
      makeDirectory_parallel hmore mode
    rw [List.map_cons, List.cons_append, FileAction.makeDirectoriesTo, ← List.cons_append,
      ← List.map_cons, hpath]
    refine .bind hmake.attempt ?_
    rintro (e | _)
    · dsimp only
      split
      · exact acceptDirectory_parallel hmore e
      · have houter : Parallel root place₁ place₂ ((more ++ [n]) ++ names)
            (FileAction.makeDirectoriesTo root.anchor
              (names.map .name ++ root.steps.reverse) FileAction.directoryMode) := ih _ (by simp)
        rw [List.append_assoc, List.singleton_append] at houter
        refine houter.bind fun _ => .bind hmake.attempt ?_
        rintro (e' | _)
        · dsimp only
          split
          · exact .throw e'
          · exact acceptDirectory_parallel hmore e'
        · exact .pure ()
    · exact .pure ()

end Operations

end GuestImage
