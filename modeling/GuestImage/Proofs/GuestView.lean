import GuestImage.Proofs.Linking

/-!
# What a guest is led to

A guest sees the root of its image as the top: links that start at the top start there, and steps up
do not leave it. Following links it is led to a path on which nothing that there is is a link
(`LedTo`), and to one path only (`LedTo.eq`).

The resolution of the directory of the link to the name servers follows the guest as far as the
guest is led anywhere (`resolve_of_ledTo`), so the link is made in the directory that `/etc` leads
the guest to. There it leads on to the name servers of the directory around that one, which is the
root only if the directory is the root itself or in it (`ensure_leads_iff`).
-/

namespace GuestImage

open FileSystem
open NameResolution (below LinkFree)

/-- The name a step is to. -/
def Step.name? : Step → Option String
  | .name n => some n
  | _ => none

/-- There is a directory at a place. -/
def FileSystem.IsDirectory (fs : FileSystem) (p : Place) : Prop :=
  ∃ mode, fs.get? p = some (.directory mode)

/-- The directory around another one, for who sees a place as the top. -/
def outerOf (top dir : Place) : Place :=
  if dir = top then top else dir.tail

/-- Who sees a place as the top and follows steps from a directory is led to a path: nothing that
there is on it is a link. From the first name that is missing, the path is as the steps spell it. -/
inductive LedTo (fs : FileSystem) (top : Place) : Place → List Step → Place → Prop
  | done {dir : Place} : LedTo fs top dir [] dir
  | missing {dir : Place} {n : String} {rest : List Step} (absent : fs.get? (n :: dir) = none)
      (spelled : Step.up ∉ rest) :
    LedTo fs top dir (.name n :: rest) ((rest.filterMap Step.name?).reverse ++ n :: dir)
  | here {dir p : Place} {rest : List Step} (inside : fs.IsDirectory dir)
      (leads : LedTo fs top dir rest p) :
    LedTo fs top dir (.here :: rest) p
  | up {dir p : Place} {rest : List Step} (inside : fs.IsDirectory dir)
      (leads : LedTo fs top (outerOf top dir) rest p) :
    LedTo fs top dir (.up :: rest) p
  | name {dir p : Place} {n : String} {rest : List Step} {e : Entry}
      (held : fs.get? (n :: dir) = some e) (noLink : ∀ target, e ≠ .link target)
      (leads : LedTo fs top (n :: dir) rest p) :
    LedTo fs top dir (.name n :: rest) p
  | link {dir p : Place} {n target : String} {rest : List Step}
      (held : fs.get? (n :: dir) = some (.link target))
      (leads : LedTo fs top (if (Route.ofText target).fromTop then top else dir)
        ((Route.ofText target).steps ++ rest) p) :
    LedTo fs top dir (.name n :: rest) p

section LedTo

variable {fs fs' : FileSystem} {top dir p q : Place} {steps : List Step}

theorem LedTo.eq (hp : LedTo fs top dir steps p) (hq : LedTo fs top dir steps q) : p = q := by
  induction hp with
  | done => cases hq; rfl
  | missing absent =>
    cases hq with
    | missing => rfl
    | name held => rw [absent] at held; cases held
    | link held => rw [absent] at held; cases held
  | here _ _ ih =>
    cases hq with
    | here _ leads => exact ih leads
  | up _ _ ih =>
    cases hq with
    | up _ leads => exact ih leads
  | name held noLink _ ih =>
    cases hq with
    | missing absent => rw [absent] at held; cases held
    | name _ _ leads => exact ih leads
    | link held' => exact absurd (Option.some.inj (held.symm.trans held')) (noLink _)
  | link held _ ih =>
    cases hq with
    | missing absent => rw [absent] at held; cases held
    | name held' noLink => exact absurd (Option.some.inj (held'.symm.trans held)) (noLink _)
    | link held' leads =>
      obtain rfl := Entry.link.inj (Option.some.inj (held.symm.trans held'))
      exact ih leads

/-- Names that are no links lead to where they say. -/
theorem ledTo_names (names : List String) (hfree : LinkFree fs dir names.reverse) :
    LedTo fs top dir (names.map .name) (names.reverse ++ dir) := by
  induction names generalizing dir with
  | nil => exact .done
  | cons n names ih =>
    rw [List.reverse_cons] at hfree
    rw [List.map_cons, List.reverse_cons, List.append_assoc, List.singleton_append]
    rcases held : fs.get? (n :: dir) with _ | e
    · have hnames : (names.map Step.name).filterMap Step.name? = names := by
        simp [List.filterMap_map, Step.name?, Function.comp_def]
      have hmissing : LedTo fs top dir (.name n :: names.map .name) _ :=
        .missing held (by simp)
      rwa [hnames] at hmissing
    · refine .name held ?_ (ih fun s hs hne target hlink => ?_)
      · rintro target rfl
        exact hfree [n] (List.suffix_append _ _) (by simp) target held
      · refine hfree (s ++ [n]) ?_ (by simp) target (by simpa using hlink)
        obtain ⟨l, hl⟩ := hs
        exact ⟨l, by simp [← hl]⟩

theorem isDirectory_of_suffix (hwf : fs.WellFormed) {n : String} {e : Entry}
    (held : fs.get? (n :: p) = some e) (hq : q <:+ p) : fs.IsDirectory q := by
  induction p generalizing n e with
  | nil =>
    obtain rfl := List.suffix_nil.1 hq
    exact hwf.parent _ _ _ held
  | cons m p ih =>
    obtain ⟨mode, hmode⟩ := hwf.parent _ _ _ held
    rcases List.suffix_cons_iff.1 hq with rfl | hq
    · exact ⟨mode, hmode⟩
    · exact ih hmode hq

theorem LedTo.after_spelled {rest more : List Step} (spelled : Step.up ∉ rest)
    (hdirs : ∀ s, dir <:+ s → s <:+ (rest.filterMap Step.name?).reverse ++ dir → fs.IsDirectory s)
    (h : LedTo fs top ((rest.filterMap Step.name?).reverse ++ dir) more q) :
    LedTo fs top dir (rest ++ more) q := by
  induction rest generalizing dir with
  | nil => exact h
  | cons step rest ih =>
    have hrest : Step.up ∉ rest := fun hup => spelled (List.mem_cons_of_mem _ hup)
    cases step with
    | up => exact absurd List.mem_cons_self spelled
    | here => exact .here (hdirs dir List.suffix_rfl (List.suffix_append _ _)) (ih hrest hdirs h)
    | name n =>
      simp only [List.filterMap_cons, Step.name?, List.reverse_cons, List.append_assoc,
        List.singleton_append] at hdirs h
      obtain ⟨mode, hmode⟩ := hdirs (n :: dir) (List.suffix_cons _ _) (List.suffix_append _ _)
      refine .name hmode (by simp) (ih hrest (fun s hs => ?_) h)
      exact hdirs s ((List.suffix_cons _ _).trans hs)

theorem suffix_outerOf (hdir : top <:+ dir) : top <:+ outerOf top dir := by
  unfold outerOf
  split
  · exact List.suffix_rfl
  · rename_i hne
    cases dir with
    | nil => exact hdir
    | cons name dir => exact (List.suffix_cons_iff.1 hdir).resolve_left (Ne.symm hne)

theorem outerOf_eq_iff (hdir : top <:+ dir) :
    outerOf top dir = top ↔ dir.length ≤ top.length + 1 := by
  obtain ⟨names, rfl⟩ := hdir
  unfold outerOf
  cases names with
  | nil => simp
  | cons n names =>
    have houter : names ++ top = top ↔ names = [] := List.append_left_eq_self
    rw [if_neg (mt List.append_left_eq_self.1 (by simp)), List.cons_append, List.tail_cons, houter,
      List.length_cons, List.length_append, ← List.length_eq_zero_iff]
    omega

/-- Who is led to a directory goes on from there: what was missing is there by now. -/
theorem LedTo.append (h : LedTo fs top dir steps p)
    (keeps : ∀ q e, fs.get? q = some e → fs'.get? q = some e) (hdir : top <:+ dir)
    (hdirs : ∀ s, top <:+ s → s <:+ p → fs'.IsDirectory s) {more : List Step}
    (hmore : LedTo fs' top p more q) : LedTo fs' top dir (steps ++ more) q := by
  induction h with
  | done => exact hmore
  | @missing dir n rest _ spelled =>
    obtain ⟨mode, hmode⟩ := hdirs (n :: dir) (hdir.trans (List.suffix_cons _ _))
      (List.suffix_append _ _)
    refine .name hmode (by simp) (hmore.after_spelled spelled fun s hs => hdirs s ?_)
    exact hdir.trans ((List.suffix_cons _ _).trans hs)
  | here inside _ ih =>
    obtain ⟨mode, hmode⟩ := inside
    exact .here ⟨mode, keeps _ _ hmode⟩ (ih hdir hdirs hmore)
  | @up dir _ _ inside _ ih =>
    obtain ⟨mode, hmode⟩ := inside
    exact .up ⟨mode, keeps _ _ hmode⟩ (ih (suffix_outerOf hdir) hdirs hmore)
  | name held noLink _ ih =>
    exact .name (keeps _ _ held) noLink (ih (hdir.trans (List.suffix_cons _ _)) hdirs hmore)
  | @link _ _ _ target rest held _ ih =>
    refine .link (keeps _ _ held) ?_
    change LedTo fs' top _ (_ ++ (rest ++ more)) q
    rw [← List.append_assoc]
    refine ih ?_ hdirs hmore
    split
    · exact List.suffix_rfl
    · exact hdir

end LedTo

namespace NameResolution

/-- What the resolution of a path does at a link, by how many links it may still follow. -/
def continueAt (fs : FileSystem) (root relative : Path) :
    Nat → List String → String → String → List Step → Resolution
  | 0, names, n, _, _ =>
    ⟨0, .error (Obstacle.tooManyLinks.failure [(below root (n :: names)).text])⟩
  | links + 1, names, _, target, rest =>
    resolveLinks fs root relative links
      (if (Path.ofText target).anchor = .relative then names else [])
      ((Path.ofText target).steps ++ rest)

section Resolution

variable {fs fs₀ : FileSystem} {root relative : Path} {place d p : Place} {steps : List Step}
  {names : List String} {n : String}

theorem resolveLinks_eq (links : Nat) :
    resolveLinks fs root relative links =
      resolveSteps fs root relative (continueAt fs root relative links) false := by
  cases links <;> rfl

theorem anchor_relative_iff (target : String) :
    (Path.ofText target).anchor = .relative ↔ (Route.ofText target).fromTop = false := by
  unfold Path.ofText Route.ofText Anchor.ofText
  rcases target.toList with _ | ⟨c, cs⟩
  · simp
  · by_cases hc : c = '/'
    · subst hc
      simp only [decide_true, List.takeWhile_cons_of_pos, List.length_cons, List.head?_cons]
      generalize (cs.takeWhile (· = '/')).length = k
      rcases k with _ | _ | k <;> simp
    · simp [hc]

/-- Once a name is missing, the rest are kept as they are. -/
theorem resolveSteps_spelled {onLink : List String → String → String → List Step → Resolution}
    {rest : List Step} (spelled : Step.up ∉ rest) (names : List String) :
    (resolveSteps fs root relative onLink true names (rest.filter (· ≠ .here))).outcome =
      .ok (below root ((rest.filterMap Step.name?).reverse ++ names)) := by
  induction rest generalizing names with
  | nil => rw [List.filter_nil, resolveSteps]; rfl
  | cons step rest ih =>
    have hrest : Step.up ∉ rest := fun hup => spelled (List.mem_cons_of_mem _ hup)
    cases step with
    | up => exact absurd List.mem_cons_self spelled
    | here => exact ih hrest names
    | name n =>
      rw [List.filter_cons_of_pos (by simp), resolveSteps]
      refine (ih hrest (n :: names)).trans ?_
      simp [Step.name?]

/-- Nothing is below a name that is missing. -/
theorem LinkFree.append_of_missing (hwf : fs.WellFormed) (hfree : LinkFree fs place names)
    (absent : fs.get? (n :: names ++ place) = none) (more : List String) :
    LinkFree fs place (more ++ n :: names) := by
  induction more with
  | nil =>
    refine hfree.cons fun target hlink => ?_
    rw [absent] at hlink
    cases hlink
  | cons m more ih =>
    refine ih.cons fun target hlink => ?_
    have held : fs.get? (m :: (more ++ n :: names) ++ place) ≠ none := by
      rw [hlink]
      exact Option.some_ne_none _
    exact held_of_suffix hwf held ⟨m :: more, by simp⟩ absent

theorem LinkFree.resolveSteps_name (hwf : fs.WellFormed) (hleads : fs.LeadsTo root place)
    (hfree : LinkFree fs place names)
    {onLink : List String → String → String → List Step → Resolution} {rest : List Step} {r : Path}
    (hok : (resolveSteps fs root relative onLink false names (.name n :: rest)).outcome = .ok r) :
    (fs.get? (n :: names ++ place) = none ∧
        (resolveSteps fs root relative onLink true (n :: names) rest).outcome = .ok r) ∨
      (∃ e, fs.get? (n :: names ++ place) = some e ∧ (∀ target, e ≠ .link target) ∧
        (resolveSteps fs root relative onLink false (n :: names) rest).outcome = .ok r) ∨
      ∃ target, fs.get? (n :: names ++ place) = some (.link target) ∧
        (onLink names n target rest).outcome = .ok r := by
  rw [resolveSteps] at hok
  rcases hentry : fs.entryAt (below root (n :: names)) .entry with e | e
  · simp only [hentry] at hok
    split_ifs at hok with hmissing
    exact .inl ⟨hfree.get?_of_missing hwf hleads hentry hmissing, hok⟩
  · have held := hfree.get?_of_entryAt hleads hentry
    rw [hentry] at hok
    cases e with
    | link target => exact .inr (.inr ⟨target, held, hok⟩)
    | directory => exact .inr (.inl ⟨_, held, by simp, hok⟩)
    | file => exact .inr (.inl ⟨_, held, by simp, hok⟩)

theorem continueAt_eq_ok {links : Nat} {target : String} {rest : List Step} {r : Path}
    (hok : (continueAt fs root relative links names n target
      (rest.filter (· ≠ .here))).outcome = .ok r) :
    ∃ fewer, (resolveSteps fs root relative (continueAt fs root relative fewer) false
      (if (Route.ofText target).fromTop then [] else names)
      (((Route.ofText target).steps ++ rest).filter (· ≠ .here))).outcome = .ok r := by
  cases links with
  | zero => cases hok
  | succ links =>
    refine ⟨links, ?_⟩
    rw [← hok, continueAt, resolveLinks_eq, List.filter_append]
    simp only [anchor_relative_iff]
    cases (Route.ofText target).fromTop <;> rfl

/-- The resolution of steps follows a guest who is led somewhere, also if the guest does not see
something that is farther from the top. -/
theorem resolve_of_ledTo (hwf : fs.WellFormed) (hleads : fs.LeadsTo root place)
    (hless : ∀ q e, fs₀.get? q = some e → fs.get? q = some e)
    (h : LedTo fs₀ place d steps p) (hsame : ∀ q, q.length ≤ p.length → fs₀.get? q = fs.get? q) :
    ∀ (links : Nat) (names result : List String), names ++ place = d → LinkFree fs place names →
      (resolveSteps fs root relative (continueAt fs root relative links) false names
        (steps.filter (· ≠ .here))).outcome = .ok (below root result) →
      result ++ place = p ∧ LinkFree fs place result := by
  induction h with
  | done =>
    rintro links names result rfl hfree hok
    rw [List.filter_nil, resolveSteps] at hok
    obtain rfl := below_injective (Except.ok.inj hok)
    exact ⟨rfl, hfree⟩
  | @missing d n rest absent spelled =>
    rintro links names result rfl hfree hok
    have absent : fs.get? (n :: names ++ place) = none := by
      rw [← absent]
      exact (hsame _ (by simp)).symm
    rw [List.filter_cons_of_pos (by simp)] at hok
    rcases hfree.resolveSteps_name hwf hleads hok with
      ⟨-, hok⟩ | ⟨e, held, -⟩ | ⟨target, held, -⟩
    · obtain rfl := below_injective
        (Except.ok.inj ((resolveSteps_spelled spelled (n :: names)).symm.trans hok))
      exact ⟨by simp, hfree.append_of_missing hwf absent _⟩
    · rw [absent] at held
      cases held
    · rw [absent] at held
      cases held
  | here _ _ ih =>
    intro links names result hd hfree hok
    rw [List.filter_cons_of_neg (by simp)] at hok
    exact ih hsame links names result hd hfree hok
  | @up d _ rest _ _ ih =>
    rintro links names result rfl hfree hok
    rw [List.filter_cons_of_pos (by simp)] at hok
    cases names with
    | nil =>
      rw [resolveSteps] at hok
      cases hok
    | cons m names =>
      rw [resolveSteps] at hok
      refine ih hsame links names result ?_ hfree.tail hok
      rw [outerOf, if_neg]
      · rfl
      · exact mt List.append_left_eq_self.1 (by simp)
  | @name d _ n rest e held noLink _ ih =>
    rintro links names result rfl hfree hok
    have held : fs.get? (n :: names ++ place) = some e := hless _ _ held
    rw [List.filter_cons_of_pos (by simp)] at hok
    rcases hfree.resolveSteps_name hwf hleads hok with
      ⟨absent, -⟩ | ⟨e', held', -, hok⟩ | ⟨target, held', -⟩
    · rw [absent] at held
      cases held
    · refine ih hsame links (n :: names) result rfl (hfree.cons fun target hlink => ?_) hok
      exact noLink target (Option.some.inj (held.symm.trans hlink))
    · exact absurd (Option.some.inj (held.symm.trans held')) (noLink target)
  | @link d _ n target rest held _ ih =>
    rintro links names result rfl hfree hok
    have held : fs.get? (n :: names ++ place) = some (.link target) := hless _ _ held
    rw [List.filter_cons_of_pos (by simp)] at hok
    rcases hfree.resolveSteps_name hwf hleads hok with
      ⟨absent, -⟩ | ⟨e, held', noLink, -⟩ | ⟨target', held', hok⟩
    · rw [absent] at held
      cases held
    · exact absurd (Option.some.inj (held'.symm.trans held)) (noLink target)
    · obtain rfl := Entry.link.inj (Option.some.inj (held.symm.trans held'))
      obtain ⟨fewer, hok⟩ := continueAt_eq_ok hok
      refine ih hsame fewer _ result ?_ ?_ hok
      · split <;> rfl
      · split
        · exact linkFree_nil fs place
        · exact hfree

end Resolution

section Ensure

variable {fs : FileSystem} {root : Path} {place dir : Place}

/-- The names of the file that the kernel of a guest publishes its name servers in. -/
def publishedNames : List String := ["proc", "net", "pnp"]

theorem exists_resolve_of_ensure (h : (ensure root fs).1 = .ok true) :
    ∃ names, resolve fs root directory = .ok (below root names) := by
  unfold ensure at h
  rw [Action.bind_apply, Action.query_apply] at h
  rcases hpath : resolve fs root directory with e | p
  · rw [hpath] at h
    cases h
  · obtain ⟨names, rfl⟩ := resolve_eq_below hpath
    exact ⟨names, rfl⟩

theorem Linked.linkFree {fs' : FileSystem} (h : Linked fs fs' dir) {around : Place}
    (hfree : LinkFree fs around publishedNames.reverse) :
    LinkFree fs' around publishedNames.reverse := by
  intro s hs hne target hlink
  have hother : s ++ around ≠ fileName :: dir := by
    cases s with
    | nil => exact absurd rfl hne
    | cons n s =>
      intro heq
      obtain ⟨rfl, -⟩ := List.cons.inj heq
      have hmem : fileName ∈ publishedNames.reverse := hs.subset List.mem_cons_self
      revert hmem
      decide
  rcases h.added _ _ hother hlink with hold | hdir
  · exact hfree s hs hne target hold
  · cases hdir

/-- A guest that `/etc` leads to a directory is led from the link in it to the name servers of the
directory around it. These are those of its kernel only if that directory is the root. -/
theorem ensure_leads_iff (hwf : fs.WellFormed) (hleads : fs.LeadsTo root place)
    (h : (ensure root fs).1 = .ok true)
    (hetc : LedTo (fs.erase (fileName :: dir)) place place directory.steps dir)
    (hfree : LinkFree fs (outerOf place dir) publishedNames.reverse) :
    (∀ q, LedTo (ensure root fs).2 place place (directory.child fileName).steps q ↔
        q = publishedNames.reverse ++ outerOf place dir) ∧
      (LedTo (ensure root fs).2 place place (directory.child fileName).steps
          (publishedNames.reverse ++ place) ↔ dir.length ≤ place.length + 1) := by
  obtain ⟨names, hpath⟩ := exists_resolve_of_ensure h
  have hless : ∀ q e, (fs.erase (fileName :: dir)).get? q = some e →
      q ≠ fileName :: dir ∧ fs.get? q = some e := by
    intro q e hq
    rw [get?_erase] at hq
    split_ifs at hq with hne
    exact ⟨hne, hq⟩
  have hsame : ∀ q : Place, q.length ≤ dir.length →
      (fs.erase (fileName :: dir)).get? q = fs.get? q := by
    intro q hq
    rw [get?_erase, if_neg]
    rintro rfl
    simp only [List.length_cons] at hq
    omega
  obtain ⟨rfl, hnames⟩ := resolve_of_ledTo hwf hleads (fun q e hq => (hless q e hq).2) hetc hsame
    maxLinks [] names rfl (linkFree_nil fs place) (by rw [← resolveLinks_eq]; exact hpath)
  have hlinked := linked_of_ensure hwf hleads hpath hnames h
  have hdirs : ∀ s, place <:+ s → s <:+ names ++ place → (ensure root fs).2.IsDirectory s :=
    fun s _ hs => isDirectory_of_suffix hlinked.wellFormed hlinked.link hs
  have hroute : Route.ofText linkText =
      ⟨false, .up :: publishedNames.map .name, false⟩ := by decide
  have hlast : LedTo (ensure root fs).2 place (names ++ place) [.name fileName]
      (publishedNames.reverse ++ outerOf place (names ++ place)) := by
    refine .link hlinked.link ?_
    rw [hroute]
    exact .up (hdirs _ (List.suffix_append _ _) List.suffix_rfl)
      (ledTo_names publishedNames (hlinked.linkFree hfree))
  have hled : LedTo (ensure root fs).2 place place (directory.child fileName).steps
      (publishedNames.reverse ++ outerOf place (names ++ place)) :=
    hetc.append (fun q e hq => hlinked.keeps q e (hless q e hq).1 (hless q e hq).2)
      List.suffix_rfl hdirs hlast
  constructor
  · intro q
    constructor
    · exact fun hq => hq.eq hled
    · rintro rfl
      exact hled
  · rw [← outerOf_eq_iff (List.suffix_append names place)]
    constructor
    · exact fun hq => (List.append_cancel_left (hq.eq hled)).symm
    · intro houter
      rwa [houter] at hled

end Ensure

/-- A host with an image whose directory for the link is two directories below its root. -/
def deepHost : FileSystem :=
  ((emptyHost.insert ["a", "root", "work"] (.directory 0o755)).insert ["b", "a", "root", "work"]
    (.directory 0o755)).insert ["etc", "root", "work"] (.link "a/b")

theorem wellFormed_deepHost : deepHost.WellFormed :=
  ((wellFormed_emptyHost.insert 0o755 (by decide) (by decide)).insert 0o755
    (by decide) (by decide)).insert 0o755 (by decide) (by decide)

/-- Where `/etc` is a directory in the root the guest finds its name servers. Where it is farther
down, it looks for them in the wrong directory. -/
theorem ensure_leads_hosts :
    (linkedHost.WellFormed ∧ linkedHost.LeadsTo imageRoot ["root", "work"] ∧
      (ensure imageRoot linkedHost).1 = .ok true ∧
      LedTo (linkedHost.erase (fileName :: ["data", "root", "work"])) ["root", "work"]
        ["root", "work"] directory.steps ["data", "root", "work"] ∧
      LinkFree linkedHost (outerOf ["root", "work"] ["data", "root", "work"])
        publishedNames.reverse ∧
      LedTo (ensure imageRoot linkedHost).2 ["root", "work"] ["root", "work"]
        (directory.child fileName).steps (publishedNames.reverse ++ ["root", "work"])) ∧
    deepHost.WellFormed ∧ deepHost.LeadsTo imageRoot ["root", "work"] ∧
      (ensure imageRoot deepHost).1 = .ok true ∧
      LedTo (deepHost.erase (fileName :: ["b", "a", "root", "work"])) ["root", "work"]
        ["root", "work"] directory.steps ["b", "a", "root", "work"] ∧
      LinkFree deepHost (outerOf ["root", "work"] ["b", "a", "root", "work"])
        publishedNames.reverse ∧
      LedTo (ensure imageRoot deepHost).2 ["root", "work"] ["root", "work"]
        (directory.child fileName).steps (publishedNames.reverse ++ ["a", "root", "work"]) ∧
      ¬ LedTo (ensure imageRoot deepHost).2 ["root", "work"] ["root", "work"]
        (directory.child fileName).steps (publishedNames.reverse ++ ["root", "work"]) := by
  have hleads : linkedHost.LeadsTo imageRoot ["root", "work"] := ⟨0o755, by decide +kernel⟩
  have hmade : (ensure imageRoot linkedHost).1 = .ok true := by decide +kernel
  have hetc : LedTo (linkedHost.erase (fileName :: ["data", "root", "work"])) ["root", "work"]
      ["root", "work"] directory.steps ["data", "root", "work"] := by
    have hlink : (linkedHost.erase (fileName :: ["data", "root", "work"])).get?
        ["etc", "root", "work"] = some (.link "/data") := by decide
    exact .link hlink (.name (e := .directory 0o755) (by decide) (by simp) .done)
  have hfree : LinkFree linkedHost (outerOf ["root", "work"] ["data", "root", "work"])
      publishedNames.reverse :=
    LinkFree.append_of_missing wellFormed_linkedHost (linkFree_nil _ _) (by decide) ["pnp", "net"]
  have hdeepLeads : deepHost.LeadsTo imageRoot ["root", "work"] := ⟨0o755, by decide +kernel⟩
  have hdeepMade : (ensure imageRoot deepHost).1 = .ok true := by decide +kernel
  have hdeepEtc : LedTo (deepHost.erase (fileName :: ["b", "a", "root", "work"])) ["root", "work"]
      ["root", "work"] directory.steps ["b", "a", "root", "work"] := by
    have hlink : (deepHost.erase (fileName :: ["b", "a", "root", "work"])).get?
        ["etc", "root", "work"] = some (.link "a/b") := by decide
    exact .link hlink (.name (e := .directory 0o755) (by decide) (by simp)
      (.name (e := .directory 0o755) (by decide) (by simp) .done))
  have hdeepFree : LinkFree deepHost (outerOf ["root", "work"] ["b", "a", "root", "work"])
      publishedNames.reverse :=
    LinkFree.append_of_missing wellFormed_deepHost (linkFree_nil _ _) (by decide) ["pnp", "net"]
  have hgood := ensure_leads_iff wellFormed_linkedHost hleads hmade hetc hfree
  have hdeep := ensure_leads_iff wellFormed_deepHost hdeepLeads hdeepMade hdeepEtc hdeepFree
  exact ⟨⟨wellFormed_linkedHost, hleads, hmade, hetc, hfree, hgood.2.2 (by decide)⟩,
    wellFormed_deepHost, hdeepLeads, hdeepMade, hdeepEtc, hdeepFree, (hdeep.1 _).2 rfl,
    fun h => absurd (hdeep.2.1 h) (by decide)⟩

end NameResolution

end GuestImage
