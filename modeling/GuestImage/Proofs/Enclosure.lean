import GuestImage.NameResolution
import GuestImage.Proofs.Lookup

/-!
# Keeping below a root

Of a root that a path leads to without links (`LeadsTo`), everything below is looked up from the
place of the root on (`lookup_below`). As long as such a lookup stays below the place (`Stays`), it
comes to the same on every host that holds the same tree there (`comesTo_sameTree`), and an
operation where it ends changes nothing outside (`Evolves`).

Steps on files that keep to this are `Parallel`: from hosts that hold the same tree they end alike,
leave the same tree, and leave the rest of either host as it was.
-/

namespace GuestImage

open NameResolution (below)

/-- A target below a place, told from there. -/
def Target.under (place : Place) (t : Target) : Target :=
  { t with place := t.place ++ place }

namespace FileSystem

/-- Where a lookup of a path starts. -/
def start (fs : FileSystem) (p : Path) : Place :=
  if p.route.fromTop then [] else fs.workDir

/-- A path leads to the directory at a place through directories alone: a lookup that may follow no
link comes to it. -/
def LeadsTo (fs : FileSystem) (p : Path) (place : Place) : Prop :=
  ∃ mode, fs.comesTo [] .object ⟨0, false, fs.start p, p.route.steps⟩ =
    .ok ⟨place, some (.directory mode), false⟩

/-- From a standing on, a lookup stays below a place. -/
def Stays (fs : FileSystem) (place : Place) (goal : Goal) (x : Standing) : Prop :=
  ∀ y, Relation.ReflTransGen (Advances fs [] goal) x y → place <:+ y.dir

/-- Where the lookup of names, the last one first, stands at first. -/
def standingAt (place : Place) (names : List String) : Standing :=
  ⟨maxLinks, false, place, names.reverse.map .name⟩

/-- Two file systems hold the same at two places and below them. -/
def SameTree (place₁ : Place) (fs₁ : FileSystem) (place₂ : Place) (fs₂ : FileSystem) : Prop :=
  ∀ p : Place, fs₁.get? (p ++ place₁) = fs₂.get? (p ++ place₂)

/-- What becomes of a file system if entries are made and removed strictly below a place, and no
directory is removed. -/
structure Evolves (place : Place) (fs fs' : FileSystem) : Prop where
  workDir : fs'.workDir = fs.workDir
  outside : ∀ q, ¬ (place <:+ q ∧ q ≠ place) → fs'.get? q = fs.get? q
  directories : ∀ q mode, fs.get? q = some (.directory mode) → fs'.get? q = some (.directory mode)
  wellFormed : fs.WellFormed → fs'.WellFormed

section Leads

variable {fs fs' : FileSystem} {root : Path} {place : Place}

/-- A step that no link can be followed for is there in every lookup. -/
theorem Advances.free {top : Place} {goal : Goal} {dir : Place} {steps : List Step} {y : Standing}
    (h : Advances fs top goal ⟨0, false, dir, steps⟩ y) :
    y = ⟨0, false, y.dir, y.steps⟩ ∧ ∀ links goal' more,
      Advances fs top goal' ⟨links, false, dir, steps ++ more⟩
        ⟨links, false, y.dir, y.steps ++ more⟩ := by
  cases h with
  | here search => exact ⟨rfl, fun _ _ _ => .here search⟩
  | up search => exact ⟨rfl, fun _ _ _ => .up search⟩
  | name search admits held noLink =>
    exact ⟨rfl, fun _ _ _ => .name search ⟨by simp, admits.2⟩ held noLink⟩

/-- The way to where a path leads is the start of the way of any longer path. -/
theorem LeadsTo.way (h : fs.LeadsTo root place) (links : Nat) (goal : Goal) (more : List Step) :
    Relation.ReflTransGen (Advances fs [] goal)
      ⟨links, false, fs.start root, root.route.steps ++ more⟩ ⟨links, false, place, more⟩ := by
  obtain ⟨mode, h⟩ := h
  obtain ⟨y, hway, harr⟩ := comesTo_eq_ok_iff.1 h
  suffices hfree : ∀ x y : Standing, x = ⟨0, false, x.dir, x.steps⟩ →
      Relation.ReflTransGen (Advances fs [] .object) x y → y.steps = [] → y.dir = place →
      Relation.ReflTransGen (Advances fs [] goal) ⟨links, false, x.dir, x.steps ++ more⟩
        ⟨links, false, place, more⟩ by
    rw [harr.eq_of_held rfl (by simp)] at hway
    exact hfree _ _ rfl hway rfl rfl
  intro x y hx hway hsteps hdir
  induction hway using Relation.ReflTransGen.head_induction_on with
  | refl =>
    rw [hsteps, hdir]
    exact .refl
  | head hstep _ ih =>
    rw [hx] at hstep
    obtain ⟨hy, hlift⟩ := hstep.free
    exact .head (hlift _ _ _) (ih hy)

theorem LeadsTo.held (h : fs.LeadsTo root place) :
    ∃ mode, fs.get? place = some (.directory mode) := by
  obtain ⟨mode, h⟩ := h
  obtain ⟨y, -, harr⟩ := comesTo_eq_ok_iff.1 h
  exact ⟨mode, harr.entry_eq.symm⟩

theorem LeadsTo.of_evolves (h : fs.LeadsTo root place) {at' : Place} (he : Evolves at' fs fs') :
    fs'.LeadsTo root place := by
  obtain ⟨mode, hheld⟩ := h.held
  have hway := h.way 0 .object []
  rw [List.append_nil] at hway
  suffices hkeep : ∀ x y : Standing, x = ⟨0, false, x.dir, x.steps⟩ → y.steps = [] →
      y.dir = place → Relation.ReflTransGen (Advances fs [] .object) x y →
      Relation.ReflTransGen (Advances fs' [] .object) x y by
    refine ⟨mode, ?_⟩
    have hstart : fs'.start root = fs.start root := by simp [start, he.workDir]
    rw [hstart]
    refine (comesTo_eq_of_way (hkeep _ _ rfl rfl rfl hway)).trans ?_
    rw [comesTo, walkLinks_nil, he.directories _ _ hheld]
  intro x y hx hsteps hdir hway
  induction hway using Relation.ReflTransGen.head_induction_on with
  | refl => exact .refl
  | @head x z hstep hrest ih =>
    rw [hx] at hstep ⊢
    obtain ⟨hz, -⟩ := hstep.free
    refine .head ?_ (ih hz)
    have hsearch : ∀ {dir}, fs.Searchable dir → fs'.Searchable dir := by
      rintro dir ⟨m, hget, hm⟩
      exact ⟨m, he.directories _ _ hget, hm⟩
    -- what the way goes on through is a directory, also where it ends
    have hzdir : ∃ m, fs.get? z.dir = some (.directory m) := by
      rcases hrest.cases_head with rfl | ⟨w, hw, -⟩
      · exact ⟨mode, hdir ▸ hheld⟩
      · cases hw with
        | here search => exact ⟨_, search.choose_spec.1⟩
        | up search => exact ⟨_, search.choose_spec.1⟩
        | name search => exact ⟨_, search.choose_spec.1⟩
        | link search => exact ⟨_, search.choose_spec.1⟩
    generalize x.steps = steps at hstep ⊢
    generalize x.dir = dir at hstep ⊢
    cases hstep with
    | here search => exact .here (hsearch search)
    | up search => exact .up (hsearch search)
    | name search admits held noLink =>
      obtain ⟨m, hm⟩ := hzdir
      exact .name (hsearch search) admits (he.directories _ _ hm) (by simp)

/-- What is below a root is looked up from the place of the root on. -/
theorem lookup_below (h : fs.LeadsTo root place) (names : List String) (goal : Goal) :
    fs.lookup [] fs.workDir (below root names).route goal =
      fs.comesTo [] goal (standingAt place names) := by
  by_cases hdot : root.anchor = .relative ∧ root.steps = [] ∧ names ≠ []
  · -- the path of the names is the names alone, without the dot that stands for the root
    obtain ⟨hrel, hsteps, hne⟩ := hdot
    have hroute : root.route = ⟨false, [.here], false⟩ := by simp [Path.route, hrel, hsteps]
    have hbelow : (below root names).route = ⟨false, names.reverse.map .name, false⟩ := by
      simp [Path.route, below, Path.join, hrel, hsteps, hne]
    have hplace : fs.workDir = place := by
      obtain ⟨mode, h⟩ := h
      rw [start, hroute] at h
      rcases arrives_or_advances h with harr | ⟨y, hy⟩
      · cases harr
      · have hend := hy.comesTo_eq.symm.trans h
        cases hy
        rw [comesTo, walkLinks_nil, Except.ok.injEq, Target.mk.injEq] at hend
        exact hend.1
    rw [lookup, hbelow, ← hplace]
    rfl
  · have hbelow : (below root names).route.steps =
        root.route.steps ++ names.reverse.map .name := by
      simp only [Path.route, below, Path.join]
      by_cases hrel : root.anchor = .relative <;> by_cases hsteps : root.steps = [] <;>
        by_cases hne : names = [] <;> simp_all
    rw [lookup, hbelow]
    exact comesTo_eq_of_way (h.way maxLinks goal (names.reverse.map .name))

end Leads

section Stays

variable {fs fs' fs₁ fs₂ : FileSystem} {place place₁ place₂ : Place} {goal : Goal}

theorem Stays.dir {x : Standing} (h : fs.Stays place goal x) : place <:+ x.dir :=
  h x .refl

theorem Stays.step {x y : Standing} (h : fs.Stays place goal x) (hxy : Advances fs [] goal x y) :
    fs.Stays place goal y :=
  fun z hz => h z (.head hxy hz)

theorem Stays.of_way {x y : Standing} (h : fs.Stays place goal x)
    (hxy : Relation.ReflTransGen (Advances fs [] goal) x y) : fs.Stays place goal y :=
  fun z hz => h z (hxy.trans hz)

theorem Stays.of_keeps (h : ∀ q e, fs'.get? q = some e → fs.get? q = some e) {x : Standing}
    (hx : fs.Stays place goal x) : fs'.Stays place goal x :=
  fun y hy => hx y (Relation.ReflTransGen.mono (fun _ _ => Advances.of_keeps h) _ _ hy)

theorem way_append {top : Place} {goal' : Goal} (hgoal : goal' ≠ .newFile) {more : List Step}
    (hmore : more ≠ []) (s : Bool) {x y : Standing}
    (h : Relation.ReflTransGen (Advances fs top goal) x y) :
    Relation.ReflTransGen (Advances fs top goal') ⟨x.links, s, x.dir, x.steps ++ more⟩
      ⟨y.links, s, y.dir, y.steps ++ more⟩ := by
  induction h using Relation.ReflTransGen.head_induction_on with
  | refl => exact .refl
  | head hstep _ ih => exact .head (hstep.append more hmore hgoal s) ih

/-- With the lookup of a longer path, that of its start stays below a place, whatever it looks
for. -/
theorem Stays.outer {links : Nat} {s slashed : Bool} {dir : Place} {steps more : List Step}
    (h : fs.Stays place .entry ⟨links, s, dir, steps ++ more⟩) (hmore : more ≠ []) :
    fs.Stays place goal ⟨links, slashed, dir, steps⟩ :=
  fun _ hy => (h.of_way (way_append (by simp) hmore s hy)).dir

theorem up_below {p : Place}
    (h : place <:+ if p ++ place = [] then [] else (p ++ place).tail) :
    (if p ++ place = [] then [] else (p ++ place).tail) = p.tail ++ place := by
  cases p with
  | cons => rfl
  | nil =>
    cases place with
    | nil => rfl
    | cons name dir =>
      have hle : name :: dir <:+ dir := h
      have := hle.length_le
      simp only [List.length_cons] at this
      omega

theorem link_below {p : Place} {fromTop : Bool} (h : place <:+ if fromTop then [] else p ++ place) :
    (if fromTop then [] else p ++ place) = (if fromTop then [] else p) ++ place := by
  cases fromTop with
  | false => rfl
  | true =>
    obtain rfl := List.suffix_nil.1 h
    rfl

theorem SameTree.symm (same : SameTree place₁ fs₁ place₂ fs₂) : SameTree place₂ fs₂ place₁ fs₁ :=
  fun p => (same p).symm

theorem Searchable.of_sameTree (same : SameTree place₁ fs₁ place₂ fs₂) {p : Place}
    (h : fs₁.Searchable (p ++ place₁)) : fs₂.Searchable (p ++ place₂) := by
  obtain ⟨mode, hget, hmode⟩ := h
  exact ⟨mode, (same p).symm.trans hget, hmode⟩

/-- Where two hosts hold the same tree, a lookup that stays in it on one does so on the other. -/
theorem Stays.of_sameTree (same : SameTree place₁ fs₁ place₂ fs₂)
    (htop : place₁ = [] → place₂ = []) {links : Nat} {slashed : Bool} {p : Place}
    {steps : List Step} (h : fs₁.Stays place₁ goal ⟨links, slashed, p ++ place₁, steps⟩) :
    fs₂.Stays place₂ goal ⟨links, slashed, p ++ place₂, steps⟩ := by
  suffices hway : ∀ y, Relation.ReflTransGen (Advances fs₂ [] goal)
      ⟨links, slashed, p ++ place₂, steps⟩ y → ∃ q : Place, y.dir = q ++ place₂ ∧
        Relation.ReflTransGen (Advances fs₁ [] goal) ⟨links, slashed, p ++ place₁, steps⟩
          { y with dir := q ++ place₁ } by
    intro y hy
    obtain ⟨q, hq, -⟩ := hway y hy
    exact ⟨q, hq.symm⟩
  intro y hy
  induction hy with
  | refl => exact ⟨p, rfl, .refl⟩
  | @tail y z _ hstep ih =>
    obtain ⟨q, hq, hway⟩ := ih
    obtain ⟨ylinks, yslashed, ydir, ysteps⟩ := y
    obtain rfl : ydir = q ++ place₂ := hq
    have hsearch : fs₂.Searchable (q ++ place₂) → fs₁.Searchable (q ++ place₁) :=
      fun search => search.of_sameTree same.symm
    cases hstep with
    | here search => exact ⟨q, rfl, hway.tail (.here (hsearch search))⟩
    | up search =>
      have hnext := hway.tail (.up (hsearch search))
      have hup := up_below (h _ hnext)
      rw [hup] at hnext
      refine ⟨q.tail, ?_, hnext⟩
      cases q with
      | cons => rfl
      | nil =>
        have hplace : place₁ = [] := by
          cases place₁ with
          | nil => rfl
          | cons name dir =>
            have := congrArg List.length hup
            simp at this
        simp [htop hplace]
    | @name _ _ _ _ n e search admits held noLink =>
      exact ⟨n :: q, rfl, hway.tail (.name (hsearch search) admits ((same (n :: q)).trans held)
        noLink)⟩
    | @link _ _ _ _ n target search admits held followed leads =>
      have hnext := hway.tail (.link (hsearch search) admits ((same (n :: q)).trans held) followed
        leads)
      have hto := link_below (h _ hnext)
      rw [hto] at hnext
      refine ⟨_, ?_, hnext⟩
      cases hfrom : (Route.ofText target).fromTop with
      | false => simp
      | true =>
        rw [hfrom] at hto
        simp [htop (by simpa using hto.symm)]

/-- A lookup that stays below two places, from the same standing below them, comes to the same. -/
def Alike (goal : Goal) (place₁ : Place) (fs₁ : FileSystem) (place₂ : Place) (fs₂ : FileSystem)
    (links : Nat) (slashed : Bool) (p : Place) (steps : List Step) : Prop :=
  fs₁.Stays place₁ goal ⟨links, slashed, p ++ place₁, steps⟩ →
    fs₂.Stays place₂ goal ⟨links, slashed, p ++ place₂, steps⟩ →
    ∃ r : Except Obstacle Target,
      fs₁.comesTo [] goal ⟨links, slashed, p ++ place₁, steps⟩ = r.map (.under place₁) ∧
      fs₂.comesTo [] goal ⟨links, slashed, p ++ place₂, steps⟩ = r.map (.under place₂)

theorem followLink_sameTree {links : Nat} {slashed : Bool} {p : Place} {n target : String}
    {rest : List Step} (ihLinks : ∀ fewer < links, ∀ steps slashed q,
      Alike goal place₁ fs₁ place₂ fs₂ fewer slashed q steps)
    (search₁ : fs₁.Searchable (p ++ place₁)) (search₂ : fs₂.Searchable (p ++ place₂))
    (admits : Admits goal slashed n rest)
    (held₁ : fs₁.get? (n :: (p ++ place₁)) = some (.link target))
    (held₂ : fs₂.get? (n :: (p ++ place₂)) = some (.link target))
    (followed : (goal.follows slashed || !rest.isEmpty) = true)
    (h₁ : fs₁.Stays place₁ goal ⟨links, slashed, p ++ place₁, .name n :: rest⟩)
    (h₂ : fs₂.Stays place₂ goal ⟨links, slashed, p ++ place₂, .name n :: rest⟩) :
    ∃ r : Except Obstacle Target,
      fs₁.followLink [] goal links (p ++ place₁) target rest slashed = r.map (.under place₁) ∧
      fs₂.followLink [] goal links (p ++ place₂) target rest slashed = r.map (.under place₂) := by
  cases links with
  | zero => exact ⟨.error .tooManyLinks, rfl, rfl⟩
  | succ links =>
    by_cases hnowhere : (Route.ofText target).isEmpty = true
    · exact ⟨.error .missing, by simp [followLink, hnowhere, Except.map],
        by simp [followLink, hnowhere, Except.map]⟩
    have leads : (Route.ofText target).isEmpty = false := by simpa using hnowhere
    have h₁' := h₁.step (.link search₁ admits held₁ followed leads)
    have h₂' := h₂.step (.link search₂ admits held₂ followed leads)
    have hto₁ := link_below h₁'.dir
    have hto₂ := link_below h₂'.dir
    rw [hto₁] at h₁'
    rw [hto₂] at h₂'
    simp only [followLink, leads, Bool.false_eq_true, if_false]
    rw [hto₁, hto₂]
    exact ihLinks links (by omega) _ _ _ h₁' h₂'

theorem alike_name (same : SameTree place₁ fs₁ place₂ fs₂) {links : Nat} {slashed : Bool}
    {p : Place} {n : String} {rest : List Step}
    (ihSteps : ∀ q, Alike goal place₁ fs₁ place₂ fs₂ links slashed q rest)
    (ihLinks : ∀ fewer < links, ∀ steps slashed q,
      Alike goal place₁ fs₁ place₂ fs₂ fewer slashed q steps)
    (search₁ : fs₁.Searchable (p ++ place₁)) :
    Alike goal place₁ fs₁ place₂ fs₂ links slashed p (.name n :: rest) := by
  intro h₁ h₂
  have search₂ := search₁.of_sameTree same
  have hn : fs₂.get? (n :: (p ++ place₂)) = fs₁.get? (n :: (p ++ place₁)) := (same (n :: p)).symm
  rw [comesTo_name search₁, comesTo_name search₂, hn]
  by_cases hnew : (goal = .newFile && slashed && rest.isEmpty) = true
  · rw [if_pos hnew, if_pos hnew]
    exact ⟨.error .isDirectory, rfl, rfl⟩
  by_cases hlong : maxNameSize < n.utf8ByteSize
  · rw [if_neg hnew, if_neg hnew, if_pos hlong, if_pos hlong]
    exact ⟨.error .nameTooLong, rfl, rfl⟩
  have admits : Admits goal slashed n rest := ⟨by simpa using hnew, hlong⟩
  simp only [admits.1, admits.2, Bool.false_eq_true, if_false]
  rcases hheld : fs₁.get? (n :: (p ++ place₁)) with _ | e
  · cases rest with
    | nil => exact ⟨.ok ⟨n :: p, none, slashed⟩, rfl, rfl⟩
    | cons => exact ⟨.error .missing, rfl, rfl⟩
  rw [hheld] at hn
  have hgo : (∀ target, e ≠ .link target) → ∃ r : Except Obstacle Target,
      fs₁.comesTo [] goal ⟨links, slashed, n :: p ++ place₁, rest⟩ = r.map (.under place₁) ∧
      fs₂.comesTo [] goal ⟨links, slashed, n :: p ++ place₂, rest⟩ = r.map (.under place₂) :=
    fun noLink => ihSteps (n :: p) (h₁.step (.name search₁ admits hheld noLink))
      (h₂.step (.name search₂ admits hn noLink))
  cases e with
  | directory => exact hgo (by simp)
  | file => exact hgo (by simp)
  | link target =>
    by_cases followed : (goal.follows slashed || !rest.isEmpty) = true
    · simp only [followed, if_true]
      exact followLink_sameTree ihLinks search₁ search₂ admits hheld hn followed h₁ h₂
    · simp only [followed, Bool.false_eq_true, if_false]
      exact ⟨.ok ⟨n :: p, some (.link target), slashed⟩, rfl, rfl⟩

/-- Where two hosts hold the same tree, a lookup that stays in it comes to the same on both. -/
theorem comesTo_sameTree (same : SameTree place₁ fs₁ place₂ fs₂) :
    ∀ (links : Nat) (steps : List Step) (slashed : Bool) (p : Place),
      Alike goal place₁ fs₁ place₂ fs₂ links slashed p steps := by
  intro links steps
  induction links, steps using lookup_induction with
  | h links steps ihSteps ihLinks =>
    intro slashed p
    rcases steps with _ | ⟨step, rest⟩
    · intro _ _
      refine ⟨.ok ⟨p, fs₁.get? (p ++ place₁), slashed⟩, ?_, ?_⟩
      · rw [comesTo, walkLinks_nil]
        rfl
      · rw [comesTo, walkLinks_nil, ← same p]
        rfl
    by_cases search₁ : fs₁.Searchable (p ++ place₁)
    · have search₂ := search₁.of_sameTree same
      cases step with
      | here =>
        intro h₁ h₂
        rw [(Advances.here search₁).comesTo_eq, (Advances.here search₂).comesTo_eq]
        exact ihSteps rest (by simp) _ _ (h₁.step (.here search₁)) (h₂.step (.here search₂))
      | up =>
        intro h₁ h₂
        have h₁' := h₁.step (.up search₁)
        have h₂' := h₂.step (.up search₂)
        rw [(Advances.up search₁).comesTo_eq, (Advances.up search₂).comesTo_eq]
        have hup₁ := up_below h₁'.dir
        have hup₂ := up_below h₂'.dir
        rw [hup₁] at h₁' ⊢
        rw [hup₂] at h₂' ⊢
        exact ihSteps rest (by simp) _ _ h₁' h₂'
      | name n => exact alike_name same (fun q => ihSteps rest (by simp) slashed q) ihLinks search₁
    · have search₂ : ¬ fs₂.Searchable (p ++ place₂) := fun h => search₁ (h.of_sameTree same.symm)
      intro _ _
      refine ⟨.error (obstacleAt (fs₁.get? (p ++ place₁))), comesTo_of_not_searchable search₁, ?_⟩
      rw [comesTo_of_not_searchable search₂, same p]
      rfl

end Stays

section Evolves

variable {fs fs' fs'' : FileSystem} {place dir : Place} {name : String} {e : Entry}

theorem Evolves.refl (place : Place) (fs : FileSystem) : Evolves place fs fs where
  workDir := rfl
  outside _ _ := rfl
  directories _ _ h := h
  wellFormed h := h

theorem Evolves.trans (h : Evolves place fs fs') (h' : Evolves place fs' fs'') :
    Evolves place fs fs'' where
  workDir := h'.workDir.trans h.workDir
  outside q hq := (h'.outside q hq).trans (h.outside q hq)
  directories q mode hget := h'.directories q mode (h.directories q mode hget)
  wellFormed hwf := h'.wellFormed (h.wellFormed hwf)

theorem strictly_below (h : place <:+ dir) : place <:+ name :: dir ∧ name :: dir ≠ place := by
  refine ⟨h.trans (List.suffix_cons _ _), ?_⟩
  rintro rfl
  have := h.length_le
  simp only [List.length_cons] at this
  omega

theorem WellFormed.insert (hwf : fs.WellFormed) (mode : Nat)
    (hdir : fs.get? dir = some (.directory mode)) (free : fs.get? (name :: dir) = none) :
    (fs.insert (name :: dir) e).WellFormed := by
  constructor
  · obtain ⟨m, hm⟩ := hwf.top
    exact ⟨m, by rw [get?_insert, if_neg (by simp), hm]⟩
  · intro n d old hold
    have hd : ∃ m, fs.get? d = some (.directory m) := by
      rw [get?_insert] at hold
      split_ifs at hold with heq
      · obtain ⟨-, rfl⟩ := List.cons.inj heq
        exact ⟨mode, hdir⟩
      · exact hwf.parent n d old hold
    obtain ⟨m, hm⟩ := hd
    refine ⟨m, ?_⟩
    rw [get?_insert, if_neg, hm]
    rintro rfl
    rw [free] at hm
    cases hm

theorem WellFormed.erase (hwf : fs.WellFormed) (held : fs.get? (name :: dir) = some e)
    (hfile : e.isDirectory = false) : (fs.erase (name :: dir)).WellFormed := by
  constructor
  · obtain ⟨m, hm⟩ := hwf.top
    exact ⟨m, by rw [get?_erase, if_neg (by simp), hm]⟩
  · intro n d old hold
    rw [get?_erase] at hold
    split_ifs at hold
    obtain ⟨m, hm⟩ := hwf.parent n d old hold
    refine ⟨m, ?_⟩
    rw [get?_erase, if_neg, hm]
    rintro rfl
    rw [held] at hm
    cases hm
    cases hfile

theorem evolves_insert {mode : Nat} (hbelow : place <:+ dir)
    (hdir : fs.get? dir = some (.directory mode)) (free : fs.get? (name :: dir) = none) :
    Evolves place fs (fs.insert (name :: dir) e) where
  workDir := rfl
  outside q hq := by
    rw [get?_insert, if_neg]
    rintro rfl
    exact hq (strictly_below hbelow)
  directories q m hget := by
    rw [get?_insert, if_neg, hget]
    rintro rfl
    rw [free] at hget
    cases hget
  wellFormed hwf := hwf.insert mode hdir free

theorem evolves_erase (hbelow : place <:+ dir) (held : fs.get? (name :: dir) = some e)
    (hfile : e.isDirectory = false) : Evolves place fs (fs.erase (name :: dir)) where
  workDir := rfl
  outside q hq := by
    rw [get?_erase, if_neg]
    rintro rfl
    exact hq (strictly_below hbelow)
  directories q m hget := by
    rw [get?_erase, if_neg, hget]
    rintro rfl
    rw [held] at hget
    cases hget
    cases hfile
  wellFormed hwf := hwf.erase held hfile

theorem get?_bare (workDir p : Place) :
    (bare workDir).get? p = if p <:+ workDir then some (.directory 0o755) else none := by
  change (directoriesTo workDir).lookup p = _
  induction workDir with
  | nil =>
    rw [directoriesTo, List.lookup_cons, List.lookup_nil]
    by_cases hp : p = []
    · simp [hp]
    · have hne : (p == []) = false := by simpa using hp
      simp [hne, List.suffix_nil, hp]
  | cons name dir ih =>
    rw [directoriesTo, List.lookup_cons, ih]
    by_cases hp : p = name :: dir
    · simp [hp]
    · have hne : (p == name :: dir) = false := by simpa using hp
      simp [hne, List.suffix_cons_iff, hp]

theorem wellFormed_bare (workDir : Place) : (bare workDir).WellFormed where
  top := ⟨0o755, by simp [get?_bare]⟩
  parent name dir e h := by
    rw [get?_bare] at h
    split_ifs at h with hsuffix
    refine ⟨0o755, ?_⟩
    rw [get?_bare, if_pos ((List.suffix_cons _ _).trans hsuffix)]

theorem SameTree.insert {fs₁ fs₂ : FileSystem} {place₁ place₂ : Place}
    (same : SameTree place₁ fs₁ place₂ fs₂) (p : Place) (e : Entry) :
    SameTree place₁ (fs₁.insert (p ++ place₁) e) place₂ (fs₂.insert (p ++ place₂) e) := by
  intro q
  simp only [get?_insert, List.append_cancel_right_eq, same q]

theorem SameTree.erase {fs₁ fs₂ : FileSystem} {place₁ place₂ : Place}
    (same : SameTree place₁ fs₁ place₂ fs₂) (p : Place) :
    SameTree place₁ (fs₁.erase (p ++ place₁)) place₂ (fs₂.erase (p ++ place₂)) := by
  intro q
  simp only [get?_erase, List.append_cancel_right_eq, same q]

end Evolves

/-- A file system with a root, below which a path of names, the last one first, is looked up. -/
structure Enclosed (fs : FileSystem) (root : Path) (place : Place) (names : List String) :
    Prop where
  wellFormed : fs.WellFormed
  leads : fs.LeadsTo root place
  stays : fs.Stays place .entry (standingAt place names)

section Enclosed

variable {fs : FileSystem} {root : Path} {place : Place} {goal : Goal}

theorem standingAt_append (place : Place) (more names : List String) :
    standingAt place (more ++ names) =
      ⟨maxLinks, false, place, (standingAt place names).steps ++ more.reverse.map .name⟩ := by
  simp [standingAt]

theorem map_name_ne_nil {more : List String} (h : more ≠ []) :
    more.reverse.map Step.name ≠ [] := by
  simpa using h

theorem way_held (hwf : fs.WellFormed) {x y : Standing}
    (h : Relation.ReflTransGen (Advances fs [] goal) x y) (hx : fs.get? x.dir ≠ none) :
    fs.get? y.dir ≠ none := by
  induction h with
  | refl => exact hx
  | tail _ hstep ih =>
    cases hstep with
    | here => exact ih
    | @up _ _ dir =>
      cases dir with
      | nil => exact ih
      | cons name dir =>
        obtain ⟨e, he⟩ := Option.ne_none_iff_exists'.1 ih
        obtain ⟨mode, hmode⟩ := hwf.parent _ _ _ he
        simpa using hmode ▸ Option.some_ne_none _
    | name _ _ held => simp [held]
    | link _ _ _ _ _ =>
      split
      · obtain ⟨mode, hmode⟩ := hwf.top
        simp [hmode]
      · exact ih

/-- In the lookup of an entry, no slash comes after the last step unless one was there at first. -/
theorem way_unslashed {top : Place} {x y : Standing}
    (h : Relation.ReflTransGen (Advances fs top .entry) x y) (hx : x.slashed = false) :
    y.slashed = false := by
  induction h with
  | refl => exact hx
  | tail _ hstep ih =>
    cases hstep with
    | here => exact ih
    | up => exact ih
    | name => exact ih
    | link _ _ _ followed =>
      simp only [Goal.follows] at followed ih
      simp only [ih, Bool.false_or, Bool.not_eq_true'] at followed
      simp [ih, followed]

/-- A lookup that leads to where there is nothing ends at a name in a directory. -/
theorem exists_way_of_absent (hwf : fs.WellFormed) (hroot : fs.LeadsTo root place)
    {names : List String} {t : Target}
    (h : fs.comesTo [] .entry (standingAt place names) = .ok t) (ht : t.entry = none) :
    ∃ links name dir, t.place = name :: dir ∧
      Relation.ReflTransGen (Advances fs [] .entry) (standingAt place names)
        ⟨links, false, dir, [.name name]⟩ ∧
      fs.Searchable dir ∧ fs.get? (name :: dir) = none := by
  obtain ⟨y, hway, harr⟩ := comesTo_eq_ok_iff.1 h
  have hslash := way_unslashed hway rfl
  cases harr with
  | done =>
    obtain ⟨mode, hmode⟩ := hroot.held
    exact absurd ht (way_held hwf hway (by simp [standingAt, hmode]))
  | @absent links _ dir n search _ free =>
    obtain rfl : _ = false := hslash
    exact ⟨links, n, dir, rfl, hway, search, free⟩
  | link => cases ht

/-- Past a name that was just made there is the new entry alone, and nothing in it. -/
theorem dir_of_way_insert (hwf : fs.WellFormed) {n : String} {dir : Place} {e : Entry}
    (free : fs.get? (n :: dir) = none) {more : List String}
    (he : more = [] ∨ ∀ target, e ≠ .link target) {links : Nat} {z : Standing}
    (h : Relation.ReflTransGen (Advances (fs.insert (n :: dir) e) [] .entry)
      ⟨links, false, dir, .name n :: more.reverse.map .name⟩ z) :
    z.dir = dir ∨ z.dir = n :: dir := by
  rcases h.cases_head with rfl | ⟨w, hw, hwz⟩
  · exact .inl rfl
  have hwdir : w = ⟨links, false, n :: dir, more.reverse.map .name⟩ := by
    have hself : (fs.insert (n :: dir) e).get? (n :: dir) = some e := by
      rw [get?_insert, if_pos rfl]
    cases hw with
    | name => rfl
    | link _ _ held followed =>
      obtain rfl := Option.some.inj (hself.symm.trans held)
      rcases he with rfl | he
      · simp [Goal.follows] at followed
      · exact absurd rfl (he _)
  rcases hwz.cases_head with rfl | ⟨v, hv, -⟩
  · exact .inr (by rw [hwdir])
  exfalso
  have hinside : ∀ m old, (fs.insert (n :: dir) e).get? (m :: n :: dir) ≠ some old := by
    intro m old hold
    rw [get?_insert, if_neg (by simp)] at hold
    obtain ⟨mode, hmode⟩ := hwf.parent _ _ _ hold
    rw [free] at hmode
    cases hmode
  rw [hwdir] at hv
  have hnames : ∀ step ∈ more.reverse.map Step.name, ∃ m, step = .name m := by simp
  generalize more.reverse.map Step.name = steps at hv hnames
  cases hv with
  | here => simpa using hnames .here
  | up => simpa using hnames .up
  | name _ _ held => exact hinside _ _ held
  | link _ _ held => exact hinside _ _ held

/-- An entry that is made where the lookup of a path, or of its start, leads to nothing, changes
nothing outside, and leaves the lookup of the path below the place: if it is not the last one on
the path it is a directory. -/
theorem Enclosed.insert {names more : List String} (h : fs.Enclosed root place (more ++ names))
    {links : Nat} {n : String} {dir : Place} {e : Entry}
    (hway : Relation.ReflTransGen (Advances fs [] .entry) (standingAt place names)
      ⟨links, false, dir, [.name n]⟩)
    (search : fs.Searchable dir) (free : fs.get? (n :: dir) = none)
    (he : more = [] ∨ ∀ target, e ≠ .link target) :
    (fs.insert (n :: dir) e).Enclosed root place (more ++ names) ∧
      Evolves place fs (fs.insert (n :: dir) e) := by
  have hkeeps : ∀ q old, fs.get? q = some old → (fs.insert (n :: dir) e).get? q = some old := by
    intro q old hold
    rw [get?_insert, if_neg, hold]
    rintro rfl
    rw [free] at hold
    cases hold
  have hfull : Relation.ReflTransGen (Advances fs [] .entry) (standingAt place (more ++ names))
      ⟨links, false, dir, .name n :: more.reverse.map .name⟩ := by
    by_cases hmore : more = []
    · subst hmore
      exact hway
    · rw [standingAt_append]
      exact way_append (by simp) (map_name_ne_nil hmore) false hway
  have hbelow : place <:+ dir := (h.stays.of_way hfull).dir
  have hevolves : Evolves place fs (fs.insert (n :: dir) e) := by
    obtain ⟨mode, hdir, -⟩ := search
    exact evolves_insert hbelow hdir free
  refine ⟨⟨hevolves.wellFormed h.wellFormed, h.leads.of_evolves hevolves, ?_⟩, hevolves⟩
  intro z hz
  rcases way_or_way (fun _ _ h => h.of_keeps hkeeps) (fun _ _ _ h h' => h.eq h') hfull hz with
    hold | hnew
  · exact h.stays z hold
  rcases dir_of_way_insert h.wellFormed free he hnew with hz | hz
  · exact hz ▸ hbelow
  · exact hz ▸ (strictly_below hbelow).1

/-- The lookup of a path of names ends at a name in a directory below the place. -/
theorem way_named {n : String} {x y : Standing} (hx : fs.Stays place .entry x)
    (hslash : x.slashed = false) (hlast : x.steps.getLast? = some (.name n))
    (hway : Relation.ReflTransGen (Advances fs [] .entry) x y) :
    y.steps.getLast? = some (.name n) ∨ y.steps = [] ∧ ∃ dir, y.dir = n :: dir ∧ place <:+ dir := by
  induction hway with
  | refl => exact .inl hlast
  | tail hxy hstep ih =>
    have hbelow := (hx.of_way hxy).dir
    have hy := way_unslashed hxy hslash
    rcases ih with ih | ⟨hnil, -⟩
    · cases hstep with
      | @here _ _ _ rest =>
        cases rest with
        | nil => cases ih
        | cons => exact .inl ih
      | @up _ _ _ rest =>
        cases rest with
        | nil => cases ih
        | cons => exact .inl ih
      | @name _ _ dir rest =>
        cases rest with
        | nil =>
          cases ih
          exact .inr ⟨rfl, dir, rfl, hbelow⟩
        | cons => exact .inl ih
      | @link _ _ _ rest _ _ _ _ _ followed =>
        cases rest with
        | nil =>
          obtain rfl : _ = false := hy
          cases followed
        | cons step rest =>
          refine .inl ?_
          have ih : (step :: rest).getLast? = some (.name n) := ih
          rw [List.getLast?_append, ih, Option.some_or]
    · cases hstep <;> cases hnil

theorem Enclosed.inside {n : String} {names : List String}
    (h : fs.Enclosed root place (n :: names)) {t : Target}
    (ht : fs.comesTo [] .entry (standingAt place (n :: names)) = .ok t) :
    ∃ dir, t.place = n :: dir ∧ place <:+ dir := by
  obtain ⟨y, hway, harr⟩ := comesTo_eq_ok_iff.1 ht
  have hbelow := (h.stays.of_way hway).dir
  have hlast : (standingAt place (n :: names)).steps.getLast? = some (.name n) := by
    simp [standingAt]
  rcases way_named h.stays rfl hlast hway with hy | ⟨hy, hdir⟩
  · cases harr with
    | done => cases hy
    | absent =>
      cases hy
      exact ⟨_, rfl, hbelow⟩
    | link =>
      cases hy
      exact ⟨_, rfl, hbelow⟩
  · cases harr with
    | done => exact hdir
    | absent => cases hy
    | link => cases hy

theorem Enclosed.erase {n : String} {names : List String}
    (h : fs.Enclosed root place (n :: names)) {t : Target} {e : Entry}
    (ht : fs.comesTo [] .entry (standingAt place (n :: names)) = .ok t)
    (held : t.entry = some e) (hfile : e.isDirectory = false) :
    (fs.erase t.place).Enclosed root place (n :: names) ∧
      Evolves place fs (fs.erase t.place) := by
  obtain ⟨dir, hplace, hdir⟩ := h.inside ht
  have hget : fs.get? t.place = some e := by
    obtain ⟨y, -, harr⟩ := comesTo_eq_ok_iff.1 ht
    exact harr.entry_eq.symm.trans held
  have hevolves : Evolves place fs (fs.erase t.place) := by
    rw [hplace] at hget ⊢
    exact evolves_erase hdir hget hfile
  have hless : ∀ q old, (fs.erase t.place).get? q = some old → fs.get? q = some old := by
    intro q old hold
    rw [get?_erase] at hold
    split_ifs at hold
    exact hold
  exact ⟨⟨hevolves.wellFormed h.wellFormed, h.leads.of_evolves hevolves,
    h.stays.of_keeps hless⟩, hevolves⟩

end Enclosed

end FileSystem

end GuestImage
