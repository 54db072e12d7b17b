import GuestImage.Proofs.Parallel

/-!
# Names that are no links

The names that the resolution of a path inside an image has read are no links (`LinkFree`), so the
lookup of the next one stays below the root, and two hosts that hold the same tree there resolve
the path alike (`resolution_sameTree`).

The resolution stops reading at a name that is missing, and does not start again when a step up has
led back from it. One that reads every name (`reading`) comes to names that are no links
(`linkFree_of_reading`).
-/

namespace GuestImage.NameResolution

open FileSystem

/-- No name, the last one first, is that of a link. -/
def LinkFree (fs : FileSystem) (place : Place) (names : List String) : Prop :=
  ∀ s, s <:+ names → s ≠ [] → ∀ target, fs.get? (s ++ place) ≠ some (.link target)

section LinkFree

variable {fs fs₁ fs₂ : FileSystem} {root : Path} {place place₁ place₂ : Place}
  {names : List String} {n : String}

theorem linkFree_nil (fs : FileSystem) (place : Place) : LinkFree fs place [] :=
  fun _ hs hne => absurd (List.suffix_nil.1 hs) hne

theorem LinkFree.cons (h : LinkFree fs place names)
    (hn : ∀ target, fs.get? (n :: names ++ place) ≠ some (.link target)) :
    LinkFree fs place (n :: names) := by
  intro s hs hne
  rcases List.suffix_cons_iff.1 hs with rfl | hs
  · exact hn
  · exact h s hs hne

theorem LinkFree.tail (h : LinkFree fs place (n :: names)) : LinkFree fs place names :=
  fun s hs => h s (hs.trans (List.suffix_cons _ _))

/-- The lookup of a name after others that are no links goes through them one by one. -/
theorem LinkFree.way (h : LinkFree fs place names) {y : Standing}
    (hy : Relation.ReflTransGen (Advances fs [] .entry) (standingAt place (n :: names)) y) :
    ∃ s l : List String,
      y = ⟨FileSystem.maxLinks, false, s ++ place, l.map .name⟩ ∧ l.reverse ++ s = n :: names := by
  induction hy with
  | refl => exact ⟨[], (n :: names).reverse, rfl, by simp⟩
  | tail _ hstep ih =>
    obtain ⟨s, l, rfl, hsl⟩ := ih
    cases l with
    | nil => cases hstep
    | cons m l =>
      have hsl : l.reverse ++ m :: s = n :: names := by simpa using hsl
      cases hstep with
      | name => exact ⟨m :: s, l, rfl, hsl⟩
      | link _ _ held followed =>
        -- the last link is not followed, and before the last name there is none
        exfalso
        cases hl : l.reverse with
        | nil =>
          obtain rfl := List.reverse_eq_nil_iff.1 hl
          cases followed
        | cons last before =>
          rw [hl] at hsl
          obtain ⟨-, rfl⟩ := List.cons.inj hsl
          exact h (m :: s) (List.suffix_append _ _) (List.cons_ne_nil _ _) _ held

theorem LinkFree.stays (h : LinkFree fs place names) :
    fs.Stays place .entry (standingAt place (n :: names)) := by
  intro y hy
  obtain ⟨s, l, rfl, -⟩ := h.way hy
  exact List.suffix_append _ _

theorem LinkFree.target_eq (h : LinkFree fs place names) {t : Target}
    (ht : fs.comesTo [] .entry (standingAt place (n :: names)) = .ok t) :
    t = ⟨n :: names ++ place, fs.get? (n :: names ++ place), false⟩ := by
  obtain ⟨y, hway, harr⟩ := comesTo_eq_ok_iff.1 ht
  obtain ⟨s, l, rfl, hsl⟩ := h.way hway
  rw [← hsl]
  generalize hsteps : l.map Step.name = steps at harr
  cases harr with
  | done =>
    obtain rfl := List.map_eq_nil_iff.1 hsteps
    rfl
  | absent _ _ free =>
    obtain ⟨m, rfl, hm⟩ := List.map_eq_singleton_iff.1 hsteps
    cases hm
    rw [← free]
    rfl
  | link _ _ held =>
    obtain ⟨m, rfl, hm⟩ := List.map_eq_singleton_iff.1 hsteps
    cases hm
    rw [← held]
    rfl

theorem LinkFree.get?_of_entryAt (hleads : fs.LeadsTo root place) (h : LinkFree fs place names)
    {e : Entry} (he : fs.entryAt (below root (n :: names)) .entry = .ok e) :
    fs.get? (n :: names ++ place) = some e := by
  obtain ⟨t, ht, hentry⟩ := exists_lookup_of_entryAt he
  rw [lookup_below hleads] at ht
  rw [h.target_eq ht] at hentry
  exact hentry

theorem held_of_suffix (hwf : fs.WellFormed) {p s : Place} (hp : fs.get? p ≠ none)
    (hs : s <:+ p) : fs.get? s ≠ none := by
  induction p with
  | nil => rwa [List.suffix_nil.1 hs]
  | cons name dir ih =>
    rcases List.suffix_cons_iff.1 hs with rfl | hs
    · exact hp
    · obtain ⟨e, he⟩ := Option.ne_none_iff_exists'.1 hp
      obtain ⟨mode, hmode⟩ := hwf.parent _ _ _ he
      exact ih (by simp [hmode]) hs

/-- After names that are no links, the lookup of a name that is there does not miss anything. -/
theorem LinkFree.comesTo_ne_missing (hwf : fs.WellFormed) (h : LinkFree fs place names)
    (held : fs.get? (n :: names ++ place) ≠ none) (l : List String) :
    ∀ s, l.reverse ++ s = n :: names →
      fs.comesTo [] .entry ⟨FileSystem.maxLinks, false, s ++ place, l.map .name⟩ ≠
        .error .missing := by
  induction l with
  | nil =>
    intro s _
    rw [List.map_nil, comesTo, walkLinks_nil]
    simp
  | cons m l ih =>
    intro s hsl
    have hsl : l.reverse ++ m :: s = n :: names := by simpa using hsl
    have hsuffix : m :: s ++ place <:+ n :: names ++ place := by
      rw [← hsl]
      exact ⟨l.reverse, by simp⟩
    have hname := held_of_suffix hwf held hsuffix
    obtain ⟨e, he⟩ := Option.ne_none_iff_exists'.1 hname
    obtain ⟨mode, hmode⟩ : ∃ mode, fs.get? (s ++ place) = some (.directory mode) :=
      hwf.parent _ _ _ he
    rw [List.map_cons]
    by_cases search : fs.Searchable (s ++ place)
    · rw [comesTo_name search, if_neg (by simp)]
      by_cases hlong : maxNameSize < m.utf8ByteSize
      · rw [if_pos hlong]
        simp
      have he : fs.get? (m :: (s ++ place)) = some e := he
      rw [if_neg hlong, he]
      cases e with
      | directory => exact ih _ hsl
      | file => exact ih _ hsl
      | link target =>
        cases hl : l.reverse with
        | nil =>
          obtain rfl := List.reverse_eq_nil_iff.1 hl
          simp [Goal.follows]
        | cons last before =>
          rw [hl] at hsl
          obtain ⟨-, rfl⟩ := List.cons.inj hsl
          exact absurd he (h (m :: s) (List.suffix_append _ _) (List.cons_ne_nil _ _) target)
    · rw [comesTo_of_not_searchable search, hmode]
      simp [obstacleAt]

theorem eq_missing_of_isMissing {o : Obstacle} {files : List String}
    (h : (o.failure files).isMissing = true) : o = .missing := by
  cases o <;> first | rfl | cases h

theorem LinkFree.get?_of_missing (hwf : fs.WellFormed) (hleads : fs.LeadsTo root place)
    (h : LinkFree fs place names) {e : Failure}
    (he : fs.entryAt (below root (n :: names)) .entry = .error e) (hmissing : e.isMissing = true) :
    fs.get? (n :: names ++ place) = none := by
  refine Classical.byContradiction fun held => ?_
  have hcomes := h.comesTo_ne_missing hwf held (n :: names).reverse [] (by simp)
  unfold entryAt find locate locateNamed at he
  rw [lookup_below hleads] at he
  split_ifs at he
  · cases he
    cases hmissing
  · cases he
    cases hmissing
  rcases hlook : fs.comesTo [] .entry (standingAt place (n :: names)) with o | t
  · rw [hlook] at he
    cases he
    obtain rfl := eq_missing_of_isMissing hmissing
    exact hcomes hlook
  · rw [hlook, h.target_eq hlook] at he
    obtain ⟨old, hold⟩ := Option.ne_none_iff_exists'.1 held
    rw [hold] at he
    cases he

theorem LinkFree.entryAt_sameTree (hwf₁ : fs₁.WellFormed) (hwf₂ : fs₂.WellFormed)
    (hleads₁ : fs₁.LeadsTo root place₁) (hleads₂ : fs₂.LeadsTo root place₂)
    (same : SameTree place₁ fs₁ place₂ fs₂) (h : LinkFree fs₁ place₁ names) :
    fs₁.entryAt (below root (n :: names)) .entry =
      fs₂.entryAt (below root (n :: names)) .entry := by
  have h₂ : LinkFree fs₂ place₂ names := by
    intro s hs hne target
    rw [← same s]
    exact h s hs hne target
  have htwins : Twins root place₁ place₂ ([] ++ n :: names) fs₁ fs₂ :=
    ⟨⟨hwf₁, hleads₁, h.stays⟩, ⟨hwf₂, hleads₂, h₂.stays⟩, same⟩
  exact htwins.find (.inr rfl)

end LinkFree

section Resolution

variable {fs fs₁ fs₂ : FileSystem} {root relative : Path} {place place₁ place₂ : Place}

/-- The steps of a path come to the same on hosts that hold the same tree, if every link that is
met comes to the same: as long as no name was missing, none that was read is a link. -/
theorem resolveSteps_sameTree (hwf₁ : fs₁.WellFormed) (hwf₂ : fs₂.WellFormed)
    (hleads₁ : fs₁.LeadsTo root place₁) (hleads₂ : fs₂.LeadsTo root place₂)
    (same : SameTree place₁ fs₁ place₂ fs₂)
    {onLink₁ onLink₂ : List String → String → String → List Step → Resolution}
    (hlink : ∀ names n target rest, LinkFree fs₁ place₁ names →
      onLink₁ names n target rest = onLink₂ names n target rest) (steps : List Step) :
    ∀ (missing : Bool) (names : List String),
      (missing = false → LinkFree fs₁ place₁ names) →
      resolveSteps fs₁ root relative onLink₁ missing names steps =
        resolveSteps fs₂ root relative onLink₂ missing names steps := by
  induction steps with
  | nil =>
    intro missing names _
    rw [resolveSteps, resolveSteps]
  | cons step rest ih =>
    intro missing names hfree
    cases step with
    | here => rw [resolveSteps, resolveSteps, ih missing names hfree]
    | up =>
      cases names with
      | nil => rw [resolveSteps, resolveSteps]
      | cons _ outer =>
        rw [resolveSteps, resolveSteps, ih missing outer fun hm => (hfree hm).tail]
    | name n =>
      cases missing with
      | true => rw [resolveSteps, resolveSteps, ih true (n :: names) (by simp)]
      | false =>
        have hnames := hfree rfl
        rw [resolveSteps, resolveSteps,
          ← hnames.entryAt_sameTree (n := n) hwf₁ hwf₂ hleads₁ hleads₂ same]
        rcases hentry : fs₁.entryAt (below root (n :: names)) .entry with e | e
        · simp only
          rw [ih true (n :: names) (by simp)]
        · have hkept : (∀ target, e ≠ .link target) → LinkFree fs₁ place₁ (n :: names) := by
            intro hno
            refine hnames.cons fun target hget => ?_
            rw [hnames.get?_of_entryAt hleads₁ hentry] at hget
            exact hno target (Option.some.inj hget)
          cases e with
          | link target =>
            simp only
            rw [hlink names n target rest hnames]
          | directory =>
            simp only
            rw [ih false (n :: names) fun _ => hkept (by simp)]
          | file =>
            simp only
            rw [ih false (n :: names) fun _ => hkept (by simp)]

theorem resolveLinks_sameTree (hwf₁ : fs₁.WellFormed) (hwf₂ : fs₂.WellFormed)
    (hleads₁ : fs₁.LeadsTo root place₁) (hleads₂ : fs₂.LeadsTo root place₂)
    (same : SameTree place₁ fs₁ place₂ fs₂) (links : Nat) :
    ∀ (names : List String) (steps : List Step), LinkFree fs₁ place₁ names →
      resolveLinks fs₁ root relative links names steps =
        resolveLinks fs₂ root relative links names steps := by
  induction links with
  | zero =>
    intro names steps hfree
    exact resolveSteps_sameTree hwf₁ hwf₂ hleads₁ hleads₂ same (fun _ _ _ _ _ => rfl) steps false
      names fun _ => hfree
  | succ links ih =>
    intro names steps hfree
    refine resolveSteps_sameTree hwf₁ hwf₂ hleads₁ hleads₂ same ?_ steps false names fun _ => hfree
    intro names n target rest hnames
    refine ih _ _ ?_
    split
    · exact hnames
    · exact linkFree_nil fs₁ place₁

theorem resolution_sameTree (hwf₁ : fs₁.WellFormed) (hwf₂ : fs₂.WellFormed)
    (hleads₁ : fs₁.LeadsTo root place₁) (hleads₂ : fs₂.LeadsTo root place₂)
    (same : SameTree place₁ fs₁ place₂ fs₂) :
    resolution fs₁ root relative = resolution fs₂ root relative :=
  resolveLinks_sameTree hwf₁ hwf₂ hleads₁ hleads₂ same maxLinks [] _ (linkFree_nil fs₁ place₁)

theorem resolveSteps_eq_below
    {onLink : List String → String → String → List Step → Resolution}
    (hlink : ∀ names n target rest p, (onLink names n target rest).outcome = .ok p →
      ∃ names', p = below root names') (steps : List Step) :
    ∀ (missing : Bool) (names : List String) (p : Path),
      (resolveSteps fs root relative onLink missing names steps).outcome = .ok p →
      ∃ names', p = below root names' := by
  induction steps with
  | nil =>
    intro missing names p h
    rw [resolveSteps] at h
    exact ⟨names, (Except.ok.inj h).symm⟩
  | cons step rest ih =>
    intro missing names p h
    cases step with
    | here =>
      rw [resolveSteps] at h
      exact ih _ _ _ h
    | up =>
      cases names with
      | nil =>
        rw [resolveSteps] at h
        cases h
      | cons =>
        rw [resolveSteps] at h
        exact ih _ _ _ h
    | name n =>
      cases missing with
      | true =>
        rw [resolveSteps] at h
        exact ih _ _ _ h
      | false =>
        rw [resolveSteps] at h
        split at h
        · exact hlink _ _ _ _ _ h
        · exact ih _ _ _ h
        · split at h
          · exact ih _ _ _ h
          · cases h

theorem resolveLinks_eq_below (links : Nat) :
    ∀ (names : List String) (steps : List Step) (p : Path),
      (resolveLinks fs root relative links names steps).outcome = .ok p →
      ∃ names', p = below root names' := by
  induction links with
  | zero =>
    intro names steps p h
    refine resolveSteps_eq_below ?_ steps false names p h
    intro _ _ _ _ _ hlink
    cases hlink
  | succ links ih =>
    intro names steps p h
    exact resolveSteps_eq_below (fun _ _ _ _ p hlink => ih _ _ p hlink) steps false names p h

theorem resolve_eq_below {p : Path} (h : resolve fs root relative = .ok p) :
    ∃ names, p = below root names :=
  resolveLinks_eq_below maxLinks [] _ p h

/-- Follows steps below a root as their resolution does, and reads every name. -/
def readSteps (fs : FileSystem) (root relative : Path)
    (onLink : List String → String → String → List Step → Resolution) :
    List String → List Step → Resolution
  | names, [] => ⟨0, .ok (below root names)⟩
  | names, .here :: rest => (readSteps fs root relative onLink names rest).afterStep
  | names, .up :: rest =>
    match names with
    | [] => ⟨1, .error (outside relative)⟩
    | _ :: outer => (readSteps fs root relative onLink outer rest).afterStep
  | names, .name n :: rest =>
    match fs.entryAt (below root (n :: names)) .entry with
    | .ok (.link target) => (onLink names n target rest).afterStep
    | .ok _ => (readSteps fs root relative onLink (n :: names) rest).afterStep
    | .error e =>
      if e.isMissing then (readSteps fs root relative onLink (n :: names) rest).afterStep
      else ⟨1, .error e⟩

/-- Follows steps below a root, and at most the given number of links, and reads every name. -/
def readLinks (fs : FileSystem) (root relative : Path) :
    Nat → List String → List Step → Resolution
  | 0 =>
    readSteps fs root relative fun names n _ _ =>
      ⟨0, .error (Obstacle.tooManyLinks.failure [(below root (n :: names)).text])⟩
  | links + 1 =>
    readSteps fs root relative fun names _ target rest =>
      let path := Path.ofText target
      readLinks fs root relative links (if path.anchor = .relative then names else [])
        (path.steps ++ rest)

/-- The path outside the image of a path inside it, if every name is read on the way. -/
def reading (fs : FileSystem) (root relative : Path) : Except Failure Path :=
  (readLinks fs root relative maxLinks [] relative.steps).outcome

theorem below_injective {names names' : List String} (h : below root names = below root names') :
    names = names' := by
  have hsteps := List.append_cancel_left (congrArg Path.steps h)
  exact List.reverse_inj.1 ((List.map_inj_right fun _ _ hn => Step.name.inj hn).1 hsteps)

theorem linkFree_of_readSteps (hwf : fs.WellFormed) (hleads : fs.LeadsTo root place)
    {onLink : List String → String → String → List Step → Resolution}
    (hlink : ∀ names n target rest result, LinkFree fs place names →
      (onLink names n target rest).outcome = .ok (below root result) → LinkFree fs place result)
    (steps : List Step) :
    ∀ names result : List String, LinkFree fs place names →
      (readSteps fs root relative onLink names steps).outcome = .ok (below root result) →
      LinkFree fs place result := by
  induction steps with
  | nil =>
    intro names result hfree h
    rw [readSteps] at h
    rwa [← below_injective (Except.ok.inj h)]
  | cons step rest ih =>
    intro names result hfree h
    cases step with
    | here =>
      rw [readSteps] at h
      exact ih _ _ hfree h
    | up =>
      cases names with
      | nil =>
        rw [readSteps] at h
        cases h
      | cons =>
        rw [readSteps] at h
        exact ih _ _ hfree.tail h
    | name n =>
      rw [readSteps] at h
      split at h
      · exact hlink _ _ _ _ _ hfree h
      · rename_i e hno hentry
        refine ih _ _ (hfree.cons fun target hget => ?_) h
        rw [hfree.get?_of_entryAt hleads hentry] at hget
        exact hno target (Option.some.inj hget)
      · rename_i e hentry
        split_ifs at h with hmissing
        refine ih _ _ (hfree.cons fun target hget => ?_) h
        rw [hfree.get?_of_missing hwf hleads hentry hmissing] at hget
        cases hget

theorem linkFree_of_readLinks (hwf : fs.WellFormed) (hleads : fs.LeadsTo root place)
    (links : Nat) :
    ∀ (names result : List String) (steps : List Step), LinkFree fs place names →
      (readLinks fs root relative links names steps).outcome = .ok (below root result) →
      LinkFree fs place result := by
  induction links with
  | zero =>
    intro names result steps hfree h
    refine linkFree_of_readSteps hwf hleads ?_ steps names result hfree h
    intro _ _ _ _ _ _ hlink
    cases hlink
  | succ links ih =>
    intro names result steps hfree h
    refine linkFree_of_readSteps hwf hleads ?_ steps names result hfree h
    intro names n target rest result hnames hlink
    refine ih _ _ _ ?_ hlink
    split
    · exact hnames
    · exact linkFree_nil fs place

/-- Names that have all been read are no links. -/
theorem linkFree_of_reading (hwf : fs.WellFormed) (hleads : fs.LeadsTo root place)
    {names : List String} (h : reading fs root relative = .ok (below root names)) :
    LinkFree fs place names :=
  linkFree_of_readLinks hwf hleads maxLinks [] names _ (linkFree_nil fs place) h

theorem below_nil (root : Path) : below root [] = root := by
  simp [below, Path.join]

theorem child_below (names : List String) (n : String) :
    (below root names).child n = below root (n :: names) := by
  simp [below, Path.child, Path.join]

end Resolution

end GuestImage.NameResolution
