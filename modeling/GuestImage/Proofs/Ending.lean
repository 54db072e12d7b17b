import GuestImage.Proofs.Repeating

/-!
# The end of a resolution

No step of a resolution but a link puts others in its place, and a link uses up one of those that
may be followed. So the steps to come and those that the links left may put in their place get fewer
with every step (`Follows.budget_lt`), also where links lead to themselves, and they bound the steps
that a resolution takes (`steps_le_budget`).

It ends with a path, or it fails: for a step up from the root, for a refusal of the host, or for a
zero character (`fails_resolve`). It fails for too many links where its way, if only it went on,
would lead by more of them than may be followed (`LeadsByLinks`), and otherwise only if the host
comes to too many links on the path of the root itself (`resolution_ends`).
-/

namespace GuestImage

open FileSystem
open NameResolution (below)

/-- No link leads through more than so many steps, a slash they start with not counted. -/
def FileSystem.LinksWithin (fs : FileSystem) (most : Nat) : Prop :=
  ∀ q target, fs.get? q = some (.link target) → (Path.ofText target).steps.length ≤ most

theorem FileSystem.LinksWithin.insert {fs : FileSystem} {most : Nat} {q : Place} {e : Entry}
    (h : fs.LinksWithin most)
    (he : ∀ target, e = .link target → (Path.ofText target).steps.length ≤ most) :
    (fs.insert q e).LinksWithin most := by
  intro place target hlink
  rw [get?_insert] at hlink
  split_ifs at hlink
  · exact he target (Option.some.inj hlink)
  · exact h place target hlink

theorem FileSystem.linksWithin_bare (workDir : Place) (most : Nat) :
    (bare workDir).LinksWithin most := by
  intro q target hlink
  rw [get?_bare] at hlink
  split_ifs at hlink
  cases hlink

/-- The host does not come to too many links on a path. -/
def FileSystem.CanFollow (fs : FileSystem) (p : Path) : Prop :=
  fs.lookup [] fs.workDir p.route .object ≠ .error .tooManyLinks

namespace NameResolution

/-- The steps to come at a bearing, and those that links may put in their place. -/
def budget (most : Nat) (x : Bearing) : Nat :=
  x.steps.length + x.links * most

/-- The way of a path, for one who may follow so many links, leads by all of them. -/
def LeadsByLinks (fs : FileSystem) (root relative : Path) (links : Nat) : Prop :=
  ∃ y, Relation.ReflTransGen (Follows fs root) ⟨links, false, [], relative.steps⟩ y ∧ y.links = 0

/-- There is a zero character in what a resolution starts with, or in what a link leads to. -/
def MeetsZero (fs : FileSystem) (root relative : Path) : Prop :=
  '\x00' ∈ root.text.toList ∨ '\x00' ∈ relative.text.toList ∨
    ∃ q target, fs.get? q = some (.link target) ∧ '\x00' ∈ target.toList

/-- Names below a root that the host was asked for one by one: each is there and is no link. -/
def Seen (fs : FileSystem) (root : Path) (names : List String) : Prop :=
  ∀ n more, n :: more <:+ names →
    ∃ e, fs.entryAt (below root (n :: more)) .entry = .ok e ∧ ∀ target, e ≠ .link target

section Count

variable {fs : FileSystem} {root relative : Path} {x y : Bearing} {r : Except Failure Path}
  {most : Nat}

theorem Follows.budget_lt (hlinks : fs.LinksWithin most) (h : Follows fs root x y) :
    budget most y < budget most x := by
  cases h with
  | here | up | spelled | missing | name => simp [budget]
  | @link links names n rest target held =>
    rw [← child_below] at held
    obtain ⟨dir, -, -, hlink⟩ := exists_of_entryAt held
    have htarget := hlinks _ _ hlink
    simp only [budget, List.length_append, List.length_cons, Nat.succ_mul]
    omega

theorem steps_le_budget (hlinks : fs.LinksWithin most)
    (hway : Relation.ReflTransGen (Follows fs root) x y) (hr : Halts fs root relative y r) :
    (resolutionFrom fs root relative x).steps ≤ budget most x := by
  induction hway using Relation.ReflTransGen.head_induction_on with
  | refl =>
    obtain ⟨taken, htaken, heq⟩ := hr.resolutionFrom_eq
    rw [heq]
    exact Nat.le_trans htaken (Nat.le_add_right _ _)
  | head hstep _ ih =>
    rw [hstep.resolutionFrom_eq]
    exact Nat.lt_of_le_of_lt ih (hstep.budget_lt hlinks)

theorem steps_resolution_le (hlinks : fs.LinksWithin most) :
    (resolution fs root relative).steps ≤ relative.steps.length + maxLinks * most := by
  obtain ⟨y, r, hway, hr⟩ := exists_halts fs root relative maxLinks relative.steps false []
  rw [resolution_eq_resolutionFrom]
  exact steps_le_budget hlinks hway hr

end Count

section Failing

variable {fs : FileSystem} {root relative : Path} {x y : Bearing}

theorem sayable_setOut (h : '\x00' ∉ relative.text.toList) : (setOut relative).Sayable :=
  ⟨nofun, fun n hn hzero => h (Path.zero_mem_text.2 ⟨.name n, hn, hzero⟩)⟩

/-- A resolution that fails does so for a refusal, for a step up from the root, or for a zero
character. -/
theorem fails_resolve (fs : FileSystem) (root relative : Path) :
    Fails (fun e => e.isRefusal = true ∨ e = outside relative ∨
      e = zeroCharacter ∧ MeetsZero fs root relative) (resolve fs root relative) := by
  intro e he
  by_cases hzero : MeetsZero fs root relative
  · obtain ⟨y, -, hr⟩ := outcome_eq_iff.1 (resolve_eq_outcomeFrom.symm.trans he)
    cases hr with
    | climbing => exact .inr (.inl rfl)
    | blocked refused =>
      rcases entryAt_error refused with rfl | ⟨o, rfl⟩
      · exact .inr (.inr ⟨rfl, hzero⟩)
      · exact .inl rfl
    | tooManyLinks => exact .inl rfl
  · obtain ⟨hroot, hrelative, hlinks⟩ := not_or.1 hzero |>.imp_right not_or.1
    have hfs : fs.Sayable := fun q target hlink hc => hlinks ⟨q, target, hlink, hc⟩
    rcases resolve_sayable_cases hfs hroot (sayable_setOut hrelative) with
      ⟨names, -, hok⟩ | ⟨e', he', hcases⟩
    · rw [he] at hok
      cases hok
    · obtain rfl := Except.error.inj (he.symm.trans he')
      exact hcases.imp_right .inl

end Failing

section Links

variable {fs : FileSystem} {root relative p : Path} {x y : Bearing} {n : String}
  {names : List String} {files : List String}

theorem Follows.spare (more : Nat) (h : Follows fs root x y) :
    Follows fs root { x with links := x.links + more } { y with links := y.links + more } := by
  cases h with
  | here => exact .here
  | up => exact .up
  | spelled => exact .spelled
  | missing absent missing => exact .missing absent missing
  | name held noLink => exact .name held noLink
  | link held =>
    dsimp only
    rw [Nat.add_right_comm]
    exact .link held

theorem follows_spare (more : Nat) (h : Relation.ReflTransGen (Follows fs root) x y) :
    Relation.ReflTransGen (Follows fs root) { x with links := x.links + more }
      { y with links := y.links + more } := by
  induction h with
  | refl => exact .refl
  | tail _ hstep ih => exact ih.tail (hstep.spare more)

/-- The way of one who may follow a link more is there for the others, or it leads by a link that
they may not follow. -/
theorem follows_without {links : Nat} {steps : List Step}
    (h : Relation.ReflTransGen (Follows fs root) ⟨links + 1, false, [], steps⟩ y) :
    (∃ l, y.links = l + 1 ∧ Relation.ReflTransGen (Follows fs root) ⟨links, false, [], steps⟩
        { y with links := l }) ∨
      ∃ names n rest target, fs.entryAt (below root (n :: names)) .entry = .ok (.link target) ∧
        Relation.ReflTransGen (Follows fs root) ⟨links, false, [], steps⟩
          ⟨0, false, names, .name n :: rest⟩ := by
  -- as long as a link may still be followed, the other way has one less of them
  induction h with
  | refl => exact .inl ⟨links, rfl, .refl⟩
  | @tail y z _ hstep ih =>
    rcases ih with ⟨l, hl, hway⟩ | hmet
    · cases hstep with
      | here => exact .inl ⟨l, hl, hway.tail .here⟩
      | up => exact .inl ⟨l, hl, hway.tail .up⟩
      | spelled => exact .inl ⟨l, hl, hway.tail .spelled⟩
      | missing absent missing => exact .inl ⟨l, hl, hway.tail (.missing absent missing)⟩
      | name held noLink => exact .inl ⟨l, hl, hway.tail (.name held noLink)⟩
      | link held =>
        obtain rfl := Nat.succ.inj hl.symm
        cases l with
        | zero => exact .inr ⟨_, _, _, _, held, hway⟩
        | succ l => exact .inl ⟨l, rfl, hway.tail (.link held)⟩
    · exact .inr hmet

theorem leadsByLinks_succ_iff {links : Nat} :
    LeadsByLinks fs root relative (links + 1) ↔
      ∃ names n rest target, fs.entryAt (below root (n :: names)) .entry = .ok (.link target) ∧
        Relation.ReflTransGen (Follows fs root) ⟨links, false, [], relative.steps⟩
          ⟨0, false, names, .name n :: rest⟩ := by
  constructor
  · rintro ⟨y, hway, hy⟩
    refine (follows_without hway).resolve_left ?_
    rintro ⟨l, hl, -⟩
    exact Nat.succ_ne_zero l (hl.symm.trans hy)
  · rintro ⟨names, n, rest, target, held, hway⟩
    exact ⟨_, (follows_spare 1 hway).tail (.link held), rfl⟩

theorem Seen.tail (h : Seen fs root (n :: names)) : Seen fs root names :=
  fun m more hmore => h m more (hmore.trans (List.suffix_cons ..))

theorem Seen.cons {e : Entry} (h : Seen fs root names)
    (held : fs.entryAt (below root (n :: names)) .entry = .ok e)
    (noLink : ∀ target, e ≠ .link target) : Seen fs root (n :: names) := by
  intro m more hmore
  rcases List.suffix_cons_iff.1 hmore with heq | hmore
  · exact heq ▸ ⟨e, held, noLink⟩
  · exact h m more hmore

theorem seen_of_way {links : Nat} {steps : List Step}
    (hway : Relation.ReflTransGen (Follows fs root) ⟨links, false, [], steps⟩ y)
    (hlost : y.lost = false) : Seen fs root y.names := by
  have hnil : Seen fs root [] := fun n more hmore => nomatch List.suffix_nil.1 hmore
  -- once a name is missing, the host is not asked any more
  induction hway with
  | refl => exact hnil
  | tail _ hstep ih =>
    cases hstep with
    | here => exact ih hlost
    | up => exact (ih hlost).tail
    | spelled => cases hlost
    | missing => cases hlost
    | name held noLink => exact (ih rfl).cons held noLink
    | link =>
      dsimp only
      split
      · exact ih rfl
      · exact hnil

theorem Seen.canFollow (h : Seen fs root names) (hroot : fs.CanFollow root) :
    fs.CanFollow (below root names) := by
  cases names with
  | nil => rwa [below_nil]
  | cons n names =>
    obtain ⟨e, held, noLink⟩ := h n names List.suffix_rfl
    rw [← child_below] at held ⊢
    obtain ⟨t, ht, he⟩ := exists_lookup_of_entryAt held
    obtain ⟨dir, hnames, search, short, rfl⟩ := exists_of_lookup_child ht
    rw [CanFollow, hnames.lookup_child_object search short he noLink]
    nofun

/-- The host comes to too many links only before the last name that it is asked for. -/
theorem not_canFollow_of_entryAt
    (h : fs.entryAt (p.child n) .entry = .error (Obstacle.tooManyLinks.failure files)) :
    ¬ fs.CanFollow p := by
  intro hfollow
  unfold entryAt find locate locateNamed at h
  split_ifs at h
  · cases h
  · cases h
  rw [FileSystem.lookup_child] at h
  rcases hlook : fs.lookup [] fs.workDir p.route .object with o | t
  · rw [hlook] at h
    cases o with
    | tooManyLinks => exact hfollow hlook
    | _ => cases h
  rw [hlook] at h
  change (fs.comesTo [] .entry ⟨0, false, t.place, [.name n]⟩).mapError _ >>= _ = _ at h
  by_cases search : fs.Searchable t.place
  · by_cases short : maxNameSize < n.utf8ByteSize
    · rw [comesTo_name search, if_neg (by simp), if_pos short] at h
      cases h
    · rw [comesTo_child search short] at h
      rcases hheld : fs.get? (n :: t.place) with _ | e
      · rw [hheld] at h
        cases h
      · rw [hheld] at h
        cases h
  · rw [comesTo_of_not_searchable search] at h
    rcases hheld : fs.get? t.place with _ | ⟨_ | _ | _⟩
    all_goals rw [hheld] at h; cases h

/-- A resolution takes no more steps than the path has and than the links that may be followed can
put in their place. It ends with a path, or it fails in one of three ways. It fails for too many
links where its way leads by one more than may be followed, and nowhere else below a root that the
host can follow. -/
theorem resolution_ends {most : Nat} (hlinks : fs.LinksWithin most) :
    (resolution fs root relative).steps ≤ relative.steps.length + 40 * most ∧
    Fails (fun e => e.isRefusal = true ∨ e = outside relative ∨
      e = zeroCharacter ∧ MeetsZero fs root relative) (resolve fs root relative) ∧
    (LeadsByLinks fs root relative 41 →
      ∃ file, resolve fs root relative = .error (Obstacle.tooManyLinks.failure [file])) ∧
    (fs.CanFollow root → ∀ files,
      resolve fs root relative = .error (Obstacle.tooManyLinks.failure files) →
        LeadsByLinks fs root relative 41) := by
  refine ⟨steps_resolution_le hlinks, fails_resolve fs root relative, fun hmore => ?_,
    fun hroot files hfails => ?_⟩
  · obtain ⟨names, n, rest, target, held, hway⟩ := leadsByLinks_succ_iff.1 hmore
    refine ⟨(below root (n :: names)).text, ?_⟩
    rw [resolve_eq_outcomeFrom, outcome_eq_iff]
    exact ⟨_, hway, .tooManyLinks held⟩
  · obtain ⟨y, hway, hr⟩ := outcome_eq_iff.1 (resolve_eq_outcomeFrom.symm.trans hfails)
    generalize hfailure : Obstacle.tooManyLinks.failure files = e at hr
    cases hr with
    | climbing => cases hfailure
    | blocked refused =>
      -- no name come to is a link, so the host has come to too many of them on the root
      rw [← hfailure, ← child_below] at refused
      exact absurd ((seen_of_way hway rfl).canFollow hroot) (not_canFollow_of_entryAt refused)
    | tooManyLinks held => exact leadsByLinks_succ_iff.2 ⟨_, _, _, _, held, hway⟩

end Links

section Hosts

/-- A host with an image where the directory for the link is a link to itself. -/
def circularHost : FileSystem :=
  emptyHost.insert ["etc", "root", "work"] (.link "etc")

/-- A host with a link to itself in place of an image. -/
def imagelessHost : FileSystem :=
  emptyHost.insert ["loop", "work"] (.link "loop")

theorem linksWithin_emptyHost (most : Nat) : emptyHost.LinksWithin most :=
  (linksWithin_bare ["work"] most).insert (by simp)

/-- Around a link to itself a resolution goes as often as it may. -/
theorem resolution_circularHost :
    circularHost.LinksWithin 1 ∧ circularHost.CanFollow imageRoot ∧
      (resolution circularHost imageRoot directory).steps =
        directory.steps.length + 40 * 1 ∧
      LeadsByLinks circularHost imageRoot directory 41 := by
  have hlinks : circularHost.LinksWithin 1 := by
    refine (linksWithin_emptyHost 1).insert fun target htarget => ?_
    obtain rfl := Entry.link.inj htarget
    decide
  have hroot : circularHost.CanFollow imageRoot := by
    unfold CanFollow
    decide +kernel
  have hfails : resolve circularHost imageRoot directory =
      .error (Obstacle.tooManyLinks.failure ["root/etc"]) := by decide +kernel
  exact ⟨hlinks, hroot, by decide +kernel,
    (resolution_ends hlinks).2.2.2 hroot ["root/etc"] hfails⟩

/-- Without a link in the image, a resolution fails for too many of them if they lead to it, and for
a zero character it fails with what is neither a refusal nor a step up from the root. -/
theorem resolve_hosts :
    (emptyHost.LinksWithin 0 ∧
      ¬ Fails (fun e => e.isRefusal = true ∨ e = outside directory)
        (resolve emptyHost ⟨.relative, [.name "a\x00b"]⟩ directory)) ∧
    resolve imagelessHost ⟨.relative, [.name "loop"]⟩ directory =
      .error (Obstacle.tooManyLinks.failure ["loop/etc"]) ∧
    ¬ LeadsByLinks imagelessHost ⟨.relative, [.name "loop"]⟩ directory 41 := by
  have hzero : resolve emptyHost ⟨.relative, [.name "a\x00b"]⟩ directory =
      .error zeroCharacter := by decide +kernel
  have hloop : imagelessHost.entryAt (below ⟨.relative, [.name "loop"]⟩ ["etc"]) .entry =
      .error (Obstacle.tooManyLinks.failure ["loop/etc"]) := by decide +kernel
  refine ⟨⟨linksWithin_emptyHost 0, fun hfails => ?_⟩, by decide +kernel, ?_⟩
  · exact absurd (hfails _ hzero) (by decide)
  · rintro ⟨y, hway, hy⟩
    rcases hway.cases_head with rfl | ⟨z, hz, -⟩
    · cases hy
    · cases hz with
      | missing absent he =>
        rw [hloop] at absent
        obtain rfl := Except.error.inj absent
        cases he
      | name held => rw [hloop] at held; cases held
      | link held => rw [hloop] at held; cases held

end Hosts

end NameResolution

end GuestImage
