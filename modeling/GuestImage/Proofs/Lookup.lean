import GuestImage.FileSystem.Operations
import Mathlib.Logic.Relation
import Mathlib.Tactic.SplitIfs

/-!
# The way of a lookup

A lookup goes from standing to standing (`Advances`), and only one way (`Advances.eq`), until it
arrives at a target or something is in its way. What it comes to is what it comes to from any
standing on its way (`Advances.comesTo_eq`), so a lookup comes to a target exactly if its way leads
to a standing that arrives there (`comesTo_eq_ok_iff`).

A way is read off the directories and links it passes, so it is there in every file system that
keeps these (`Advances.of_keeps`). In particular what is put in a place that was empty, or in that
of a file, is not on the way of a lookup that led there.
-/

namespace GuestImage

/-- Where a lookup stands: the links it may still follow, whether a slash has come after the last
step, the directory it is in, and the steps before it. -/
structure Standing where
  links : Nat
  slashed : Bool
  dir : Place
  steps : List Step

namespace FileSystem

/-- A directory that may be searched. -/
def Searchable (fs : FileSystem) (dir : Place) : Prop :=
  ∃ mode, fs.get? dir = some (.directory mode) ∧ (Entry.directory mode).permits .search = true

/-- Whether a name may be looked for: it is not too long, and no file is to be made where a path
asks for a directory. -/
def Admits (goal : Goal) (slashed : Bool) (name : String) (rest : List Step) : Prop :=
  (goal = .newFile && slashed && rest.isEmpty) = false ∧ ¬ maxNameSize < name.utf8ByteSize

/-- One step on the way of a lookup. -/
inductive Advances (fs : FileSystem) (top : Place) (goal : Goal) : Standing → Standing → Prop
  | here {links slashed dir rest} (search : fs.Searchable dir) :
    Advances fs top goal ⟨links, slashed, dir, .here :: rest⟩ ⟨links, slashed, dir, rest⟩
  | up {links slashed dir rest} (search : fs.Searchable dir) :
    Advances fs top goal ⟨links, slashed, dir, .up :: rest⟩
      ⟨links, slashed, if dir = top then top else dir.tail, rest⟩
  | name {links slashed dir rest n e} (search : fs.Searchable dir)
      (admits : Admits goal slashed n rest) (held : fs.get? (n :: dir) = some e)
      (noLink : ∀ target, e ≠ .link target) :
    Advances fs top goal ⟨links, slashed, dir, .name n :: rest⟩ ⟨links, slashed, n :: dir, rest⟩
  | link {links slashed dir rest n target} (search : fs.Searchable dir)
      (admits : Admits goal slashed n rest) (held : fs.get? (n :: dir) = some (.link target))
      (followed : (goal.follows slashed || !rest.isEmpty) = true)
      (leads : (Route.ofText target).isEmpty = false) :
    Advances fs top goal ⟨links + 1, slashed, dir, .name n :: rest⟩
      ⟨links, slashed || rest.isEmpty && (Route.ofText target).slashed,
        if (Route.ofText target).fromTop then top else dir, (Route.ofText target).steps ++ rest⟩

/-- A standing from which a lookup goes no further, and the target it has arrived at. -/
inductive Arrives (fs : FileSystem) (goal : Goal) : Standing → Target → Prop
  | done {links slashed dir} :
    Arrives fs goal ⟨links, slashed, dir, []⟩ ⟨dir, fs.get? dir, slashed⟩
  | absent {links slashed dir n} (search : fs.Searchable dir) (admits : Admits goal slashed n [])
      (free : fs.get? (n :: dir) = none) :
    Arrives fs goal ⟨links, slashed, dir, [.name n]⟩ ⟨n :: dir, none, slashed⟩
  | link {links slashed dir n target} (search : fs.Searchable dir)
      (admits : Admits goal slashed n []) (held : fs.get? (n :: dir) = some (.link target))
      (kept : goal.follows slashed = false) :
    Arrives fs goal ⟨links, slashed, dir, [.name n]⟩ ⟨n :: dir, some (.link target), slashed⟩

/-- What a lookup comes to from a standing. -/
def comesTo (fs : FileSystem) (top : Place) (goal : Goal) (x : Standing) : Except Obstacle Target :=
  fs.walkLinks top goal x.links x.slashed x.dir x.steps

/-- What a lookup comes to at a link that it follows. -/
def followLink (fs : FileSystem) (top : Place) (goal : Goal) :
    Nat → Place → String → List Step → Bool → Except Obstacle Target
  | 0, _, _, _, _ => .error .tooManyLinks
  | links + 1, dir, target, rest, slashed =>
    if (Route.ofText target).isEmpty then .error .missing
    else
      fs.walkLinks top goal links (slashed || rest.isEmpty && (Route.ofText target).slashed)
        (if (Route.ofText target).fromTop then top else dir) ((Route.ofText target).steps ++ rest)

section Way

variable {fs : FileSystem} {top : Place} {goal : Goal}

theorem walkLinks_nil (links : Nat) (slashed : Bool) (dir : Place) :
    fs.walkLinks top goal links slashed dir [] = .ok ⟨dir, fs.get? dir, slashed⟩ := by
  cases links <;> rfl

theorem walkLinks_cons (links : Nat) (slashed : Bool) (dir : Place) (step : Step)
    (rest : List Step) :
    fs.walkLinks top goal links slashed dir (step :: rest) =
      match fs.get? dir with
      | none => .error .missing
      | some (.directory mode) =>
        if !(Entry.directory mode).permits .search then .error .denied
        else
          match step with
          | .here => fs.walkLinks top goal links slashed dir rest
          | .up => fs.walkLinks top goal links slashed (if dir = top then top else dir.tail) rest
          | .name n =>
            if goal = .newFile && slashed && rest.isEmpty then .error .isDirectory
            else if maxNameSize < n.utf8ByteSize then .error .nameTooLong
            else
              match fs.get? (n :: dir) with
              | none => if rest.isEmpty then .ok ⟨n :: dir, none, slashed⟩ else .error .missing
              | some (.link target) =>
                if goal.follows slashed || !rest.isEmpty then
                  fs.followLink top goal links dir target rest slashed
                else .ok ⟨n :: dir, some (.link target), slashed⟩
              | some _ => fs.walkLinks top goal links slashed (n :: dir) rest
      | some _ => .error .notDirectory := by
  cases links <;> cases step <;> rfl

/-- To show something of every lookup, show it where it holds of all that have fewer steps before
them, and of all that may follow fewer links. -/
theorem lookup_induction {P : Nat → List Step → Prop}
    (h : ∀ links steps, (∀ rest, rest.length < steps.length → P links rest) →
      (∀ fewer < links, ∀ more, P fewer more) → P links steps) :
    ∀ links steps, P links steps := by
  intro links
  induction links using Nat.strongRecOn with
  | ind links ihLinks =>
    intro steps
    induction hn : steps.length using Nat.strongRecOn generalizing steps with
    | ind n ihSteps =>
      subst hn
      exact h links steps (fun rest hrest => ihSteps _ hrest rest rfl) ihLinks

theorem Advances.eq {x y z : Standing} (hy : Advances fs top goal x y)
    (hz : Advances fs top goal x z) : y = z := by
  cases hy with
  | here => cases hz; rfl
  | up => cases hz; rfl
  | name _ _ held noLink =>
    cases hz with
    | name => rfl
    | link _ _ held' => exact absurd (Option.some.inj (held.symm.trans held')) (noLink _)
  | link _ _ held =>
    cases hz with
    | name _ _ held' noLink => exact absurd (Option.some.inj (held'.symm.trans held)) (noLink _)
    | link _ _ held' =>
      obtain rfl := Entry.link.inj (Option.some.inj (held.symm.trans held'))
      rfl

theorem Advances.comesTo_eq {x y : Standing} (h : Advances fs top goal x y) :
    fs.comesTo top goal x = fs.comesTo top goal y := by
  cases h with
  | here search =>
    obtain ⟨mode, hdir, hmode⟩ := search
    simp only [comesTo, walkLinks_cons, hdir, hmode, Bool.not_true, Bool.false_eq_true, if_false]
  | up search =>
    obtain ⟨mode, hdir, hmode⟩ := search
    simp only [comesTo, walkLinks_cons, hdir, hmode, Bool.not_true, Bool.false_eq_true, if_false]
  | @name links slashed dir rest n e search admits held noLink =>
    obtain ⟨mode, hdir, hmode⟩ := search
    simp only [comesTo, walkLinks_cons, hdir, hmode, Bool.not_true, Bool.false_eq_true, if_false,
      admits.1, admits.2, held]
  | link search admits held followed leads =>
    obtain ⟨mode, hdir, hmode⟩ := search
    simp only [comesTo, walkLinks_cons, hdir, hmode, Bool.not_true, Bool.false_eq_true, if_false,
      admits.1, admits.2, held, followed, if_true, followLink, leads]

theorem comesTo_eq_of_way {x y : Standing}
    (h : Relation.ReflTransGen (Advances fs top goal) x y) :
    fs.comesTo top goal x = fs.comesTo top goal y := by
  induction h with
  | refl => rfl
  | tail _ hstep ih => exact ih.trans hstep.comesTo_eq

theorem Arrives.comesTo_eq {x : Standing} {t : Target} (h : Arrives fs goal x t) :
    fs.comesTo top goal x = .ok t := by
  cases h with
  | done => exact walkLinks_nil ..
  | absent search admits free =>
    obtain ⟨mode, hdir, hmode⟩ := search
    simp only [comesTo, walkLinks_cons, hdir, hmode, Bool.not_true, Bool.false_eq_true, if_false,
      admits.1, admits.2, free]
    rfl
  | link search admits held kept =>
    obtain ⟨mode, hdir, hmode⟩ := search
    simp only [comesTo, walkLinks_cons, hdir, hmode, Bool.not_true, Bool.false_eq_true, if_false,
      admits.1, admits.2, held, kept]
    rfl

/-- What stands in the way in a place that is no directory to be searched. -/
def obstacleAt : Option Entry → Obstacle
  | none => .missing
  | some (.directory _) => .denied
  | some _ => .notDirectory

theorem comesTo_of_not_searchable {links : Nat} {slashed : Bool} {dir : Place} {step : Step}
    {rest : List Step} (h : ¬ fs.Searchable dir) :
    fs.comesTo top goal ⟨links, slashed, dir, step :: rest⟩ =
      .error (obstacleAt (fs.get? dir)) := by
  rw [comesTo, walkLinks_cons]
  rcases hget : fs.get? dir with _ | ⟨mode⟩ | _ | _
  · rfl
  · have hmode : (Entry.directory mode).permits .search = false := by
      rw [← Bool.not_eq_true]
      exact fun hmode => h ⟨mode, hget, hmode⟩
    simp [hmode, obstacleAt]
  · rfl
  · rfl

theorem comesTo_name {links : Nat} {slashed : Bool} {dir : Place} {n : String} {rest : List Step}
    (search : fs.Searchable dir) :
    fs.comesTo top goal ⟨links, slashed, dir, .name n :: rest⟩ =
      if goal = .newFile && slashed && rest.isEmpty then .error .isDirectory
      else if maxNameSize < n.utf8ByteSize then .error .nameTooLong
      else
        match fs.get? (n :: dir) with
        | none => if rest.isEmpty then .ok ⟨n :: dir, none, slashed⟩ else .error .missing
        | some (.link target) =>
          if goal.follows slashed || !rest.isEmpty then
            fs.followLink top goal links dir target rest slashed
          else .ok ⟨n :: dir, some (.link target), slashed⟩
        | some _ => fs.comesTo top goal ⟨links, slashed, n :: dir, rest⟩ := by
  obtain ⟨mode, hdir, hmode⟩ := search
  simp only [comesTo, walkLinks_cons, hdir, hmode, Bool.not_true, Bool.false_eq_true, if_false]

theorem Arrives.entry_eq {x : Standing} {t : Target} (h : Arrives fs goal x t) :
    t.entry = fs.get? t.place := by
  cases h with
  | done => rfl
  | absent _ _ free => exact free.symm
  | link _ _ held => exact held.symm

theorem Arrives.eq_of_held {x : Standing} {t : Target} {e : Entry} (h : Arrives fs goal x t)
    (he : t.entry = some e) (noLink : ∀ target, e ≠ .link target) :
    x = ⟨x.links, t.slashed, t.place, []⟩ := by
  cases h with
  | done => rfl
  | absent => cases he
  | link => exact absurd (Option.some.inj he).symm (noLink _)

/-- A lookup that comes to a target either has arrived or goes on. -/
theorem arrives_or_advances {x : Standing} {t : Target} (h : fs.comesTo top goal x = .ok t) :
    Arrives fs goal x t ∨ ∃ y, Advances fs top goal x y := by
  obtain ⟨links, slashed, dir, _ | ⟨step, rest⟩⟩ := x
  · rw [comesTo, walkLinks_nil, Except.ok.injEq] at h
    subst h
    exact .inl .done
  · simp only [comesTo, walkLinks_cons] at h
    split at h
    · cases h
    · rename_i mode hdir
      by_cases hdenied : (Entry.directory mode).permits .search = false
      · simp [hdenied] at h
      have hmode : (Entry.directory mode).permits .search = true := by simpa using hdenied
      have search : fs.Searchable dir := ⟨mode, hdir, hmode⟩
      simp only [hmode, Bool.not_true, Bool.false_eq_true, if_false] at h
      cases step with
      | here => exact .inr ⟨_, .here search⟩
      | up => exact .inr ⟨_, .up search⟩
      | name n =>
        by_cases hnew : (goal = .newFile && slashed && rest.isEmpty) = true
        · simp [hnew] at h
        by_cases hlong : maxNameSize < n.utf8ByteSize
        · simp [hnew, hlong] at h
        have admits : Admits goal slashed n rest := ⟨by simpa using hnew, hlong⟩
        simp only [hnew, hlong, Bool.false_eq_true, if_false] at h
        split at h
        · rename_i free
          split_ifs at h with hrest
          rw [Except.ok.injEq] at h
          obtain rfl := List.isEmpty_iff.1 hrest
          subst h
          exact .inl (.absent search admits free)
        · rename_i target held
          split_ifs at h with hfollow
          · cases links with
            | zero => cases h
            | succ links =>
              by_cases hnowhere : (Route.ofText target).isEmpty = true
              · simp [followLink, hnowhere] at h
              exact .inr ⟨_, .link search admits held hfollow (by simpa using hnowhere)⟩
          · rw [Except.ok.injEq] at h
            simp only [Bool.or_eq_true, not_or, Bool.not_eq_true, Bool.not_eq_true',
              Bool.not_eq_false, List.isEmpty_iff] at hfollow
            obtain ⟨kept, rfl⟩ := hfollow
            subst h
            exact .inl (.link search admits held kept)
        · rename_i e hno held
          exact .inr ⟨_, .name search admits held hno⟩
    · cases h

theorem exists_way_of_comesTo {t : Target} :
    ∀ (links : Nat) (steps : List Step) (slashed : Bool) (dir : Place),
      fs.comesTo top goal ⟨links, slashed, dir, steps⟩ = .ok t →
      ∃ y, Relation.ReflTransGen (Advances fs top goal) ⟨links, slashed, dir, steps⟩ y ∧
        Arrives fs goal y t := by
  intro links steps
  induction links, steps using lookup_induction with
  | h links steps ihSteps ihLinks =>
    intro slashed dir h
    rcases arrives_or_advances h with harr | ⟨y, hy⟩
    · exact ⟨_, .refl, harr⟩
    · have hyt := hy.comesTo_eq.symm.trans h
      cases hy with
      | here search =>
        obtain ⟨z, hz, harr⟩ := ihSteps _ (by simp) _ _ hyt
        exact ⟨z, .head (.here search) hz, harr⟩
      | up search =>
        obtain ⟨z, hz, harr⟩ := ihSteps _ (by simp) _ _ hyt
        exact ⟨z, .head (.up search) hz, harr⟩
      | name search admits held noLink =>
        obtain ⟨z, hz, harr⟩ := ihSteps _ (by simp) _ _ hyt
        exact ⟨z, .head (.name search admits held noLink) hz, harr⟩
      | link search admits held followed leads =>
        obtain ⟨z, hz, harr⟩ := ihLinks _ (by omega) _ _ _ hyt
        exact ⟨z, .head (.link search admits held followed leads) hz, harr⟩

/-- A lookup gets to where it goes no further. -/
theorem exists_stuck (fs : FileSystem) (top : Place) (goal : Goal) :
    ∀ (links : Nat) (steps : List Step) (slashed : Bool) (dir : Place),
      ∃ y, Relation.ReflTransGen (Advances fs top goal) ⟨links, slashed, dir, steps⟩ y ∧
        ∀ z, ¬ Advances fs top goal y z := by
  intro links steps
  induction links, steps using lookup_induction with
  | h links steps ihSteps ihLinks =>
    intro slashed dir
    by_cases hend : ∃ y, Advances fs top goal ⟨links, slashed, dir, steps⟩ y
    · obtain ⟨y, hy⟩ := hend
      suffices hrest : ∃ z, Relation.ReflTransGen (Advances fs top goal) y z ∧
          ∀ w, ¬ Advances fs top goal z w by
        obtain ⟨z, hz, hstuck⟩ := hrest
        exact ⟨z, .head hy hz, hstuck⟩
      cases hy with
      | link => exact ihLinks _ (by omega) _ _ _
      | _ => exact ihSteps _ (by simp) _ _
    · exact ⟨_, .refl, fun z hz => hend ⟨z, hz⟩⟩

/-- A lookup comes to a target exactly if its way leads to where it arrives at the target. -/
theorem comesTo_eq_ok_iff {x : Standing} {t : Target} :
    fs.comesTo top goal x = .ok t ↔
      ∃ y, Relation.ReflTransGen (Advances fs top goal) x y ∧ Arrives fs goal y t := by
  constructor
  · exact exists_way_of_comesTo _ _ _ _
  · rintro ⟨y, hy, harr⟩
    exact (comesTo_eq_of_way hy).trans harr.comesTo_eq

/-- A name in a directory that may be searched leads to its place, for one who looks for the entry
itself. -/
theorem comesTo_child {links : Nat} {dir : Place} {n : String} (search : fs.Searchable dir)
    (short : ¬ maxNameSize < n.utf8ByteSize) :
    fs.comesTo top .entry ⟨links, false, dir, [.name n]⟩ =
      .ok ⟨n :: dir, fs.get? (n :: dir), false⟩ := by
  have admits : Admits .entry false n [] := ⟨by simp, short⟩
  rcases hheld : fs.get? (n :: dir) with _ | e
  · exact (Arrives.absent search admits hheld).comesTo_eq
  · have hstep : (∀ target, e ≠ .link target) →
        fs.comesTo top .entry ⟨links, false, dir, [.name n]⟩ = .ok ⟨n :: dir, some e, false⟩ := by
      intro noLink
      rw [(Advances.name search admits hheld noLink).comesTo_eq, comesTo, walkLinks_nil, hheld]
    cases e with
    | directory => exact hstep (by simp)
    | file => exact hstep (by simp)
    | link => exact (Arrives.link search admits hheld rfl).comesTo_eq

/-- What there is at the end of the links is at their start, or there is a link. -/
theorem exists_comesTo_entry_eq {x : Standing} {t : Target} {e : Entry}
    (h : fs.comesTo top .object x = .ok t) (he : t.entry = some e) :
    ∃ t' e', fs.comesTo top .entry x = .ok t' ∧ t'.entry = some e' ∧
      (e' = e ∨ ∃ target, e' = .link target) := by
  obtain ⟨y, hway, harr⟩ := comesTo_eq_ok_iff.1 h
  induction hway using Relation.ReflTransGen.head_induction_on with
  | refl =>
    cases harr with
    | done => exact ⟨_, _, Arrives.done.comesTo_eq, he, .inl rfl⟩
    | absent => cases he
    | link _ _ _ kept => cases kept
  | head hstep _ ih =>
    obtain ⟨t', e', ht', he'⟩ := ih (hstep.comesTo_eq.symm.trans h)
    cases hstep with
    | here search => exact ⟨t', e', (Advances.here search).comesTo_eq.trans ht', he'⟩
    | up search => exact ⟨t', e', (Advances.up search).comesTo_eq.trans ht', he'⟩
    | @name _ slashed _ rest _ _ search admits held noLink =>
      have admits : Admits .entry slashed _ rest := ⟨by simp, admits.2⟩
      exact ⟨t', e', (Advances.name search admits held noLink).comesTo_eq.trans ht', he'⟩
    | @link _ slashed _ rest _ target search admits held _ leads =>
      have admits : Admits .entry slashed _ rest := ⟨by simp, admits.2⟩
      by_cases followed : (Goal.entry.follows slashed || !rest.isEmpty) = true
      · exact ⟨t', e', (Advances.link search admits held followed leads).comesTo_eq.trans ht', he'⟩
      · -- the last link, which is what is looked for
        simp only [Bool.or_eq_true, not_or, Bool.not_eq_true, Bool.not_eq_true',
          Bool.not_eq_false, List.isEmpty_iff] at followed
        obtain ⟨kept, rfl⟩ := followed
        exact ⟨_, _, (Arrives.link search admits held kept).comesTo_eq, rfl, .inr ⟨target, rfl⟩⟩

/-- Where there is something at the end of the links, there is something at their start. -/
theorem exists_comesTo_entry {x : Standing} {t : Target} {e : Entry}
    (h : fs.comesTo top .object x = .ok t) (he : t.entry = some e) :
    ∃ t' e', fs.comesTo top .entry x = .ok t' ∧ t'.entry = some e' := by
  obtain ⟨t', e', ht', he', -⟩ := exists_comesTo_entry_eq h he
  exact ⟨t', e', ht', he'⟩

end Way

section Target

variable {fs : FileSystem} {goal : Goal}

theorem lookup_of_locateNamed {files : List String} {text : String} {route : Route} {t : Target}
    (h : fs.locateNamed files text route goal = .ok t) :
    fs.lookup [] fs.workDir route goal = .ok t := by
  unfold FileSystem.locateNamed at h
  split_ifs at h
  generalize fs.lookup [] fs.workDir route goal = r at h
  cases r with
  | error => cases h
  | ok => exact congrArg _ (Except.ok.inj h)

theorem get?_of_lookup {route : Route} {t : Target}
    (h : fs.lookup [] fs.workDir route goal = .ok t) : fs.get? t.place = t.entry := by
  obtain ⟨y, -, harr⟩ := (comesTo_eq_ok_iff
    (x := ⟨maxLinks, route.slashed, if route.fromTop then [] else fs.workDir, route.steps⟩)).1 h
  exact harr.entry_eq.symm

theorem entry_of_held {t : Target} {e : Entry} (h : t.held = .ok e) :
    t.entry = some e := by
  unfold Target.held at h
  split at h
  · cases h
  · rename_i hentry
    split_ifs at h
    rw [hentry, Except.ok.inj h]

theorem exists_lookup_of_entryAt {p : Path} {e : Entry} (h : fs.entryAt p goal = .ok e) :
    ∃ t, fs.lookup [] fs.workDir p.route goal = .ok t ∧ t.entry = some e := by
  unfold entryAt find at h
  rcases hlocate : fs.locate p.text p.route goal with _ | t
  · rw [hlocate] at h
    cases h
  rw [hlocate] at h
  refine ⟨t, lookup_of_locateNamed hlocate, ?_⟩
  rcases hheld : t.held with o | e'
  · simp [bind, Except.bind, hheld, Except.mapError] at h
  · simp only [bind, Except.bind, hheld, Except.mapError, Except.ok.injEq] at h
    rw [entry_of_held hheld, h]

end Target

section Change

variable {fs fs' : FileSystem} {top : Place} {goal : Goal}

theorem Searchable.of_keeps (h : ∀ q e, fs.get? q = some e → fs'.get? q = some e) {dir : Place}
    (search : fs.Searchable dir) : fs'.Searchable dir := by
  obtain ⟨mode, hdir, hmode⟩ := search
  exact ⟨mode, h _ _ hdir, hmode⟩

/-- A way is there in every file system that keeps the entries. -/
theorem Advances.of_keeps (h : ∀ q e, fs.get? q = some e → fs'.get? q = some e) {x y : Standing}
    (hxy : Advances fs top goal x y) : Advances fs' top goal x y := by
  cases hxy with
  | here search => exact .here (search.of_keeps h)
  | up search => exact .up (search.of_keeps h)
  | name search admits held noLink => exact .name (search.of_keeps h) admits (h _ _ held) noLink
  | link search admits held followed leads =>
    exact .link (search.of_keeps h) admits (h _ _ held) followed leads

/-- A way of the steps up to some others, where a link in the last place is one before the others
and so is followed in any case. -/
theorem Advances.append {links links' : Nat} {slashed slashed' : Bool} {dir dir' : Place}
    {steps steps' : List Step} (more : List Step) (hmore : more ≠ []) {goal' : Goal}
    (hgoal : goal' ≠ .newFile)
    (h : Advances fs top goal ⟨links, slashed, dir, steps⟩ ⟨links', slashed', dir', steps'⟩)
    (s : Bool) :
    Advances fs top goal' ⟨links, s, dir, steps ++ more⟩ ⟨links', s, dir', steps' ++ more⟩ := by
  have hempty : ∀ rest : List Step, (rest ++ more).isEmpty = false := by
    intro rest
    simp [hmore]
  have hadmits : ∀ {n rest}, Admits goal slashed n rest → Admits goal' s n (rest ++ more) := by
    intro n rest hn
    exact ⟨by simp [hgoal], hn.2⟩
  cases h with
  | here search => exact .here search
  | up search => exact .up search
  | name search admits held noLink => exact .name search (hadmits admits) held noLink
  | @link _ _ _ rest n target search admits held followed leads =>
    have hlink : Advances fs top goal' ⟨links' + 1, s, _, .name n :: (rest ++ more)⟩ _ :=
      .link search (hadmits admits) held (by simp [hempty]) leads
    simpa [hempty] using hlink

/-- Of a way and a longer one among more entries, the longer one either is still on the first, or
goes on from its end. -/
theorem way_or_way {r s : Standing → Standing → Prop} (hrs : ∀ x y, r x y → s x y)
    (hs : ∀ x y z, s x y → s x z → y = z) {x y z : Standing} (hy : Relation.ReflTransGen r x y)
    (hz : Relation.ReflTransGen s x z) :
    Relation.ReflTransGen r x z ∨ Relation.ReflTransGen s y z := by
  induction hy using Relation.ReflTransGen.head_induction_on with
  | refl => exact .inr hz
  | head hstep _ ih =>
    rcases hz.cases_head with rfl | ⟨w, hw, hwz⟩
    · exact .inl .refl
    · obtain rfl := hs _ _ _ (hrs _ _ hstep) hw
      rcases ih hwz with h | h
      · exact .inl (.head hstep h)
      · exact .inr h

/-- There is a file at a place, or nothing at all. -/
def HoldsAtMostFile (fs : FileSystem) (q : Place) : Prop :=
  ∀ e, fs.get? q = some e → ∃ mode c, e = .file mode c

theorem HoldsAtMostFile.get?_insert {q : Place} (hq : fs.HoldsAtMostFile q) {p : Place}
    {e old : Entry} (h : fs.get? p = some old) (noFile : ∀ mode c, old ≠ .file mode c) :
    (fs.insert q e).get? p = some old := by
  rw [FileSystem.get?_insert, if_neg, h]
  rintro rfl
  obtain ⟨mode, c, rfl⟩ := hq old h
  exact noFile mode c rfl

theorem HoldsAtMostFile.searchable {q : Place} (hq : fs.HoldsAtMostFile q) {e : Entry} {dir : Place}
    (search : fs.Searchable dir) : (fs.insert q e).Searchable dir := by
  obtain ⟨mode, hdir, hmode⟩ := search
  exact ⟨mode, hq.get?_insert hdir (by simp), hmode⟩

/-- A file that is put where there was at most one is not in the way. -/
theorem HoldsAtMostFile.advances {q : Place} (hq : fs.HoldsAtMostFile q) (mode : Nat)
    (content : Content) {x y : Standing} (h : Advances fs top goal x y) :
    Advances (fs.insert q (.file mode content)) top .object x y := by
  have hadmits : ∀ {s n rest}, Admits goal s n rest → Admits .object s n rest :=
    fun hn => ⟨by simp, hn.2⟩
  cases h with
  | here search => exact .here (hq.searchable search)
  | up search => exact .up (hq.searchable search)
  | @name _ _ dir _ n old search admits held noLink =>
    by_cases hfile : n :: dir = q
    · exact .name (hq.searchable search) (hadmits admits)
        (by rw [FileSystem.get?_insert, if_pos hfile]) (by simp)
    · exact .name (hq.searchable search) (hadmits admits)
        (by rw [FileSystem.get?_insert, if_neg hfile, held]) noLink
  | link search admits held followed leads =>
    exact .link (hq.searchable search) (hadmits admits) (hq.get?_insert held (by simp))
      (by simp [Goal.follows]) leads

/-- A lookup that led to a file, or to where there was nothing, leads to the file that is put
there. -/
theorem comesTo_insert_file {x : Standing} {q : Place} {e : Option Entry} {slashed : Bool}
    (hgoal : goal ≠ .entry) (he : ∀ old, e = some old → ∃ mode c, old = .file mode c)
    (h : fs.comesTo top goal x = .ok ⟨q, e, slashed⟩) (mode : Nat) (content : Content) :
    (fs.insert q (.file mode content)).comesTo top .object x =
      .ok ⟨q, some (.file mode content), slashed⟩ := by
  obtain ⟨y, hway, harr⟩ := comesTo_eq_ok_iff.1 h
  have hq : fs.HoldsAtMostFile q := fun old hold => he old (harr.entry_eq.trans hold)
  have hself : (fs.insert q (.file mode content)).get? q = some (.file mode content) := by
    rw [get?_insert, if_pos rfl]
  have hway' := Relation.ReflTransGen.mono (fun _ _ => hq.advances mode content) _ _ hway
  rw [comesTo_eq_of_way hway']
  cases harr with
  | done => rw [comesTo, walkLinks_nil, hself]
  | @absent links _ dir n search admits =>
    have hlast : Advances (fs.insert (n :: dir) (.file mode content)) top .object
        ⟨links, slashed, dir, [.name n]⟩ ⟨links, slashed, n :: dir, []⟩ :=
      .name (hq.searchable search) ⟨by simp, admits.2⟩ hself (by simp)
    rw [hlast.comesTo_eq, comesTo, walkLinks_nil, hself]
  | link _ _ _ kept =>
    have hfollows : goal.follows slashed = true := by
      cases goal with
      | entry => exact absurd rfl hgoal
      | object => rfl
      | newFile => rfl
    rw [hfollows] at kept
    cases kept

end Change

end FileSystem

end GuestImage
