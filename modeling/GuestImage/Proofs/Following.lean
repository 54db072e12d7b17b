import GuestImage.Proofs.GuestView

/-!
# The way of a resolution

Like a lookup, the resolution of a path inside an image goes one way (`Follows`), by what the host
answers about the names it has come to. It comes to the same from any standing on its way
(`Follows.outcome_eq`), and every way has an end (`exists_halts`), so its outcome is that of the end
(`outcome_eq_iff`). In particular it fails for a step up from the root exactly if its way leads to
one (`resolve_eq_outside_iff`).

The way of a longer path starts with the way of the shorter one, as far as that goes
(`resolve_child_cases`).
-/

namespace GuestImage

open FileSystem
open NameResolution (below)

/-- Why a lookup of an entry fails: for the text of its path, or for something in the way. -/
theorem FileSystem.entryAt_error {fs : FileSystem} {p : Path} {goal : Goal} {e : Failure}
    (h : fs.entryAt p goal = .error e) :
    e = ⟨.badValue "embedded null byte", []⟩ ∨ ∃ o : Obstacle, e = o.failure [p.text] := by
  unfold entryAt find locate locateNamed at h
  split_ifs at h
  · exact .inl (Except.error.inj h).symm
  · exact .inr ⟨_, (Except.error.inj h).symm⟩
  · rcases hlook : fs.lookup [] fs.workDir p.route goal with o | t
    · rw [hlook] at h
      exact .inr ⟨o, (Except.error.inj h).symm⟩
    · rw [hlook] at h
      rcases hheld : t.held with o | old
      · simp only [Except.mapError, bind, Except.bind, hheld] at h
        exact .inr ⟨o, (Except.error.inj h).symm⟩
      · simp only [Except.mapError, bind, Except.bind, hheld] at h
        cases h

namespace NameResolution

/-- Where the resolution of a path stands: the links it may still follow, whether a name was missing
since the last one, the names it has come to, the last one first, and the steps before it. -/
structure Bearing where
  links : Nat
  lost : Bool
  names : List String
  steps : List Step

/-- Where the resolution of a path stands at first. -/
def setOut (relative : Path) : Bearing :=
  ⟨maxLinks, false, [], relative.steps⟩

/-- One step on the way of a resolution, by what the host answers. Once a name is missing, the host
is not asked any more. -/
inductive Follows (fs : FileSystem) (root : Path) : Bearing → Bearing → Prop
  | here {links lost names rest} :
    Follows fs root ⟨links, lost, names, .here :: rest⟩ ⟨links, lost, names, rest⟩
  | up {links lost n names rest} :
    Follows fs root ⟨links, lost, n :: names, .up :: rest⟩ ⟨links, lost, names, rest⟩
  | spelled {links names n rest} :
    Follows fs root ⟨links, true, names, .name n :: rest⟩ ⟨links, true, n :: names, rest⟩
  | missing {links names n rest e} (absent : fs.entryAt (below root (n :: names)) .entry = .error e)
      (missing : e.isMissing = true) :
    Follows fs root ⟨links, false, names, .name n :: rest⟩ ⟨links, true, n :: names, rest⟩
  | name {links names n rest e} (held : fs.entryAt (below root (n :: names)) .entry = .ok e)
      (noLink : ∀ target, e ≠ .link target) :
    Follows fs root ⟨links, false, names, .name n :: rest⟩ ⟨links, false, n :: names, rest⟩
  | link {links names n rest target}
      (held : fs.entryAt (below root (n :: names)) .entry = .ok (.link target)) :
    Follows fs root ⟨links + 1, false, names, .name n :: rest⟩
      ⟨links, false, if (Path.ofText target).anchor = .relative then names else [],
        (Path.ofText target).steps ++ rest⟩

/-- A bearing from which a resolution goes no further, and its outcome there. -/
inductive Halts (fs : FileSystem) (root relative : Path) : Bearing → Except Failure Path → Prop
  | done {links lost names} :
    Halts fs root relative ⟨links, lost, names, []⟩ (.ok (below root names))
  | climbing {links lost rest} :
    Halts fs root relative ⟨links, lost, [], .up :: rest⟩ (.error (outside relative))
  | blocked {links names n rest e}
      (refused : fs.entryAt (below root (n :: names)) .entry = .error e)
      (present : e.isMissing = false) :
    Halts fs root relative ⟨links, false, names, .name n :: rest⟩ (.error e)
  | tooManyLinks {names n rest target}
      (held : fs.entryAt (below root (n :: names)) .entry = .ok (.link target)) :
    Halts fs root relative ⟨0, false, names, .name n :: rest⟩
      (.error (Obstacle.tooManyLinks.failure [(below root (n :: names)).text]))

/-- The resolution of a path from a bearing on. -/
def resolutionFrom (fs : FileSystem) (root relative : Path) (x : Bearing) : Resolution :=
  resolveSteps fs root relative (continueAt fs root relative x.links) x.lost x.names x.steps

/-- What the resolution of a path comes to from a bearing. -/
def outcomeFrom (fs : FileSystem) (root relative : Path) (x : Bearing) : Except Failure Path :=
  (resolveSteps fs root relative (continueAt fs root relative x.links) x.lost x.names
    x.steps).outcome

/-- The steps of a path meet a step up with no name left to climb from. -/
def Climbs (fs : FileSystem) (root relative : Path) : Prop :=
  ∃ links lost rest, Relation.ReflTransGen (Follows fs root) (setOut relative)
    ⟨links, lost, [], .up :: rest⟩

section Way

variable {fs : FileSystem} {root relative p : Path} {x y z : Bearing} {r : Except Failure Path}
  {n : String}

theorem resolution_eq_resolutionFrom :
    resolution fs root relative = resolutionFrom fs root relative (setOut relative) := by
  rw [resolution, resolveLinks_eq]
  rfl

theorem resolve_eq_outcomeFrom :
    resolve fs root relative = outcomeFrom fs root relative (setOut relative) :=
  congrArg Resolution.outcome resolution_eq_resolutionFrom

theorem Follows.resolutionFrom_eq (h : Follows fs root x y) :
    resolutionFrom fs root relative x = (resolutionFrom fs root relative y).afterStep := by
  cases h with
  | here | up | spelled => rw [resolutionFrom, resolveSteps]; rfl
  | missing absent missing =>
    rw [resolutionFrom, resolveSteps]
    simp only [absent, missing, if_true]
    rfl
  | @name _ _ _ _ e held noLink =>
    rw [resolutionFrom, resolveSteps]
    cases e with
    | directory => simp only [held]; rfl
    | file => simp only [held]; rfl
    | link target => exact absurd rfl (noLink target)
  | link held =>
    rw [resolutionFrom, resolveSteps]
    simp only [held, continueAt, resolveLinks_eq]
    rfl

theorem Follows.outcome_eq (h : Follows fs root x y) :
    outcomeFrom fs root relative x = outcomeFrom fs root relative y := by
  change (resolutionFrom fs root relative x).outcome = _
  rw [h.resolutionFrom_eq]
  rfl

theorem outcome_eq_of_way (h : Relation.ReflTransGen (Follows fs root) x y) :
    outcomeFrom fs root relative x = outcomeFrom fs root relative y := by
  induction h with
  | refl => rfl
  | tail _ hstep ih => exact ih.trans hstep.outcome_eq

/-- A resolution that goes no further takes one step at most. -/
theorem Halts.resolutionFrom_eq (h : Halts fs root relative x r) :
    ∃ taken, taken ≤ x.steps.length ∧ resolutionFrom fs root relative x = ⟨taken, r⟩ := by
  cases h with
  | done => exact ⟨0, Nat.le_refl 0, by rw [resolutionFrom, resolveSteps]⟩
  | climbing => exact ⟨1, Nat.le_add_left 1 _, by rw [resolutionFrom, resolveSteps]⟩
  | blocked refused present =>
    refine ⟨1, Nat.le_add_left 1 _, ?_⟩
    rw [resolutionFrom, resolveSteps]
    simp only [refused, present, Bool.false_eq_true, if_false]
  | tooManyLinks held =>
    refine ⟨1, Nat.le_add_left 1 _, ?_⟩
    rw [resolutionFrom, resolveSteps]
    simp only [held]
    rfl

theorem Halts.outcome_eq (h : Halts fs root relative x r) :
    outcomeFrom fs root relative x = r := by
  obtain ⟨taken, -, heq⟩ := h.resolutionFrom_eq
  exact congrArg Resolution.outcome heq

/-- A resolution either has ended or goes on. -/
theorem halts_or_follows (fs : FileSystem) (root relative : Path) (x : Bearing) :
    (∃ r, Halts fs root relative x r) ∨ ∃ y, Follows fs root x y := by
  obtain ⟨links, lost, names, _ | ⟨step, rest⟩⟩ := x
  · exact .inl ⟨_, .done⟩
  cases step with
  | here => exact .inr ⟨_, .here⟩
  | up =>
    cases names with
    | nil => exact .inl ⟨_, .climbing⟩
    | cons => exact .inr ⟨_, .up⟩
  | name n =>
    cases lost with
    | true => exact .inr ⟨_, .spelled⟩
    | false =>
      rcases hentry : fs.entryAt (below root (n :: names)) .entry with e | e
      · rcases he : e.isMissing
        · exact .inl ⟨_, .blocked hentry he⟩
        · exact .inr ⟨_, .missing hentry he⟩
      · cases e with
        | directory => exact .inr ⟨_, .name hentry (by simp)⟩
        | file => exact .inr ⟨_, .name hentry (by simp)⟩
        | link target =>
          cases links with
          | zero => exact .inl ⟨_, .tooManyLinks hentry⟩
          | succ links => exact .inr ⟨_, .link hentry⟩

theorem exists_halts (fs : FileSystem) (root relative : Path) :
    ∀ (links : Nat) (steps : List Step) (lost : Bool) (names : List String),
      ∃ y r, Relation.ReflTransGen (Follows fs root) ⟨links, lost, names, steps⟩ y ∧
        Halts fs root relative y r := by
  intro links steps
  induction links, steps using lookup_induction with
  | h links steps ihSteps ihLinks =>
    intro lost names
    rcases halts_or_follows fs root relative ⟨links, lost, names, steps⟩ with ⟨r, hr⟩ | ⟨y, hy⟩
    · exact ⟨_, r, .refl, hr⟩
    · suffices hrest : ∃ z r, Relation.ReflTransGen (Follows fs root) y z ∧
          Halts fs root relative z r by
        obtain ⟨z, r, hz, hr⟩ := hrest
        exact ⟨z, r, .head hy hz, hr⟩
      cases hy with
      | link => exact ihLinks _ (by omega) _ _ _
      | _ => exact ihSteps _ (by simp) _ _

/-- The outcome of a resolution is that of the end of its way. -/
theorem outcome_eq_iff : outcomeFrom fs root relative x = r ↔
    ∃ y, Relation.ReflTransGen (Follows fs root) x y ∧ Halts fs root relative y r := by
  constructor
  · rintro rfl
    obtain ⟨y, r, hway, hr⟩ := exists_halts fs root relative x.links x.steps x.lost x.names
    rw [outcome_eq_of_way hway, hr.outcome_eq]
    exact ⟨y, hway, hr⟩
  · rintro ⟨y, hway, hr⟩
    rw [outcome_eq_of_way hway, hr.outcome_eq]

/-- A resolution fails for a step up from the root exactly if its way leads to one. -/
theorem resolve_eq_outside_iff :
    resolve fs root relative = .error (outside relative) ↔ Climbs fs root relative := by
  rw [resolve_eq_outcomeFrom, outcome_eq_iff]
  constructor
  · rintro ⟨y, hway, hr⟩
    generalize hout : (.error (outside relative) : Except Failure Path) = r at hr
    cases hr with
    | done => cases hout
    | climbing => exact ⟨_, _, _, hway⟩
    | blocked refused =>
      obtain rfl := Except.error.inj hout
      rcases entryAt_error refused with heq | ⟨o, heq⟩
      · cases heq
      · cases heq
    | tooManyLinks => cases hout
  · rintro ⟨links, lost, rest, hway⟩
    exact ⟨_, hway, .climbing⟩

/-- A way is there for a longer path, too. -/
theorem Follows.append (more : List Step) (h : Follows fs root x y) :
    Follows fs root { x with steps := x.steps ++ more } { y with steps := y.steps ++ more } := by
  cases h with
  | here => exact .here
  | up => exact .up
  | spelled => exact .spelled
  | missing absent missing => exact .missing absent missing
  | name held noLink => exact .name held noLink
  | link held =>
    simp only [List.cons_append, List.append_assoc]
    exact .link held

theorem follows_append (more : List Step) (h : Relation.ReflTransGen (Follows fs root) x y) :
    Relation.ReflTransGen (Follows fs root) { x with steps := x.steps ++ more }
      { y with steps := y.steps ++ more } := by
  induction h with
  | refl => exact .refl
  | tail _ hstep ih => exact ih.tail (hstep.append more)

/-- Steps that stay where they are do not matter. -/
theorem Follows.unstaying (h : Follows fs root x y) :
    Relation.ReflTransGen (Follows fs root) { x with steps := x.steps.filter (· ≠ .here) }
      { y with steps := y.steps.filter (· ≠ .here) } := by
  cases h with
  | here => exact .refl
  | up => exact .single .up
  | spelled => exact .single .spelled
  | missing absent missing => exact .single (.missing absent missing)
  | name held noLink => exact .single (.name held noLink)
  | @link links names n rest target held =>
    have hsteps : ((Path.ofText target).steps ++ rest).filter (· ≠ .here) =
        (Path.ofText target).steps ++ rest.filter (· ≠ .here) := by
      simp [Path.ofText, List.filter_filter]
    rw [hsteps]
    exact .single (.link held)

theorem resolve_eq_unstaying : resolve fs root relative =
    outcomeFrom fs root relative ⟨maxLinks, false, [], relative.steps.filter (· ≠ .here)⟩ := by
  obtain ⟨y, r, hway, hr⟩ := exists_halts fs root relative maxLinks relative.steps false []
  have hway' : Relation.ReflTransGen (Follows fs root)
      ⟨maxLinks, false, [], relative.steps.filter (· ≠ .here)⟩
      { y with steps := y.steps.filter (· ≠ .here) } := by
    clear hr
    induction hway with
    | refl => exact .refl
    | tail _ hstep ih => exact ih.trans hstep.unstaying
  have hr' : Halts fs root relative { y with steps := y.steps.filter (· ≠ .here) } r := by
    cases hr with
    | done => exact .done
    | climbing => exact .climbing
    | blocked refused present => exact .blocked refused present
    | tooManyLinks held => exact .tooManyLinks held
  rw [resolve_eq_outcomeFrom]
  exact (outcome_eq_iff.2 ⟨y, hway, hr⟩).trans (outcome_eq_iff.2 ⟨_, hway', hr'⟩).symm

/-- The resolution of a name in the directory of a path comes to the name where that of the path
ends, and fails where that fails. -/
theorem resolve_child_cases (fs : FileSystem) (root p : Path) (n : String) :
    (∃ links lost names, resolve fs root p = .ok (below root names) ∧
        Relation.ReflTransGen (Follows fs root) (setOut (p.child n))
          ⟨links, lost, names, [.name n]⟩) ∨
      (Climbs fs root p ∧ Climbs fs root (p.child n)) ∨
      ∃ e, (∀ f, e.fault ≠ .stage f) ∧ resolve fs root p = .error e ∧
        resolve fs root (p.child n) = .error e := by
  obtain ⟨y, r, hway, hr⟩ := exists_halts fs root p maxLinks p.steps false []
  have houtcome : resolve fs root p = r := by
    rw [resolve_eq_outcomeFrom, outcome_eq_iff]
    exact ⟨y, hway, hr⟩
  have hlonger := follows_append [.name n] hway
  have hstart : setOut (p.child n) = ⟨maxLinks, false, [], p.steps ++ [.name n]⟩ := rfl
  rw [← hstart] at hlonger
  have herror : ∀ e, Halts fs root (p.child n) { y with steps := y.steps ++ [.name n] } (.error e) →
      resolve fs root (p.child n) = .error e := by
    intro e he
    rw [resolve_eq_outcomeFrom, outcome_eq_iff]
    exact ⟨_, hlonger, he⟩
  cases hr with
  | done => exact .inl ⟨_, _, _, houtcome, hlonger⟩
  | climbing => exact .inr (.inl ⟨⟨_, _, _, hway⟩, ⟨_, _, _, hlonger⟩⟩)
  | blocked refused present =>
    refine .inr (.inr ⟨_, ?_, houtcome, herror _ (.blocked refused present)⟩)
    rcases entryAt_error refused with rfl | ⟨o, rfl⟩
    · simp
    · simp [Obstacle.failure]
  | tooManyLinks held =>
    exact .inr (.inr ⟨_, by simp [Obstacle.failure], houtcome, herror _ (.tooManyLinks held)⟩)

end Way

end NameResolution

end GuestImage
