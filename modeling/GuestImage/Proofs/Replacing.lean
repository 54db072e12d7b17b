import GuestImage.Proofs.Keeping
import GuestImage.Proofs.Making

/-!
# The link in the place of what there was

Making sure of the name servers either changes nothing, or puts the link in the directory of the
file, which is made if it is not there, and in the place of a link or of an empty file at most
(`Placed`). Where it fails, nothing was changed, unless it was not the shape of the tree that was in
the way (`Tidy`).

That is so but where what is removed for the link is itself on the way to the directory
(`Undermined`): then the way ends there, the link cannot be made, and what was removed is gone
(`Undermined.ensure_eq`, `ensure_tidy_iff`).
-/

namespace GuestImage

open FileSystem
open NameResolution (below)

namespace FileSystem

theorem insert_erase (fs : FileSystem) (q : Place) (e : Entry) :
    (fs.erase q).insert q e = fs.insert q e := by
  simp [insert, erase, List.filter_filter]

/-- Where the lookup of a path stands at first. -/
def standing (fs : FileSystem) (p : Path) : Standing :=
  ⟨maxLinks, p.route.slashed, fs.start p, p.route.steps⟩

section Erase

variable {fs : FileSystem} {top dir q : Place} {goal : Goal} {x y : Standing} {p : Path}

theorem Searchable.erase (search : fs.Searchable dir)
    (hq : ∀ mode, fs.get? q ≠ some (.directory mode)) : (fs.erase q).Searchable dir := by
  obtain ⟨mode, hmode, hright⟩ := search
  refine ⟨mode, ?_, hright⟩
  rw [get?_erase, if_neg, hmode]
  rintro rfl
  exact hq mode hmode

/-- A step is taken without an entry as with it, unless it is the step to the entry. -/
theorem Advances.erase (hq : ∀ mode, fs.get? q ≠ some (.directory mode))
    (h : Advances fs top goal x y) :
    Advances (fs.erase q) top goal x y ∨ ∃ links slashed dir n rest, q = n :: dir ∧
      x = ⟨links, slashed, dir, .name n :: rest⟩ := by
  cases h with
  | here search => exact .inl (.here (search.erase hq))
  | up search => exact .inl (.up (search.erase hq))
  | @name _ _ dir _ n _ search admits held noLink =>
    by_cases hself : n :: dir = q
    · exact .inr ⟨_, _, dir, n, _, hself.symm, rfl⟩
    · refine .inl (.name (search.erase hq) admits ?_ noLink)
      rw [get?_erase, if_neg hself, held]
  | @link _ _ dir _ n _ search admits held followed leads =>
    by_cases hself : n :: dir = q
    · exact .inr ⟨_, _, dir, n, _, hself.symm, rfl⟩
    · refine .inl (.link (search.erase hq) admits ?_ followed leads)
      rw [get?_erase, if_neg hself, held]

/-- A way is there without an entry that is not looked at. -/
theorem way_erase (hq : ∀ mode, fs.get? q ≠ some (.directory mode))
    (hlooks : ¬ fs.LooksAt top goal x q) (h : Relation.ReflTransGen (Advances fs top goal) x y) :
    Relation.ReflTransGen (Advances (fs.erase q) top goal) x y := by
  induction h with
  | refl => exact .refl
  | tail hbefore hstep ih =>
    rcases hstep.erase hq with hstep | ⟨links, slashed, dir, n, rest, hself, rfl⟩
    · exact ih.tail hstep
    · exact absurd ⟨links, slashed, dir, n, rest, hself, hbefore⟩ hlooks

/-- And where the entry is looked at, the way gets to where it is. -/
theorem exists_way_erase {links : Nat} {slashed : Bool} {n : String} {rest : List Step}
    (hq : ∀ mode, fs.get? (n :: dir) ≠ some (.directory mode))
    (h : Relation.ReflTransGen (Advances fs top goal) x ⟨links, slashed, dir, .name n :: rest⟩) :
    ∃ links slashed rest, Relation.ReflTransGen (Advances (fs.erase (n :: dir)) top goal) x
      ⟨links, slashed, dir, .name n :: rest⟩ := by
  induction h using Relation.ReflTransGen.head_induction_on with
  | refl => exact ⟨_, _, _, .refl⟩
  | head hfirst _ ih =>
    rcases hfirst.erase hq with hfirst | ⟨links, slashed, d, m, rest, hname, rfl⟩
    · obtain ⟨links, slashed, rest, hway⟩ := ih
      exact ⟨links, slashed, rest, .head hfirst hway⟩
    · obtain ⟨rfl, rfl⟩ := List.cons.inj hname
      exact ⟨links, slashed, rest, .refl⟩

theorem NamesDirectory.erase (h : fs.NamesDirectory p dir)
    (hq : ∀ mode, fs.get? q ≠ some (.directory mode))
    (hlooks : ¬ fs.LooksAt [] .object (fs.standing p) q) : (fs.erase q).NamesDirectory p dir := by
  obtain ⟨mode, slashed, hlook⟩ := h
  change fs.comesTo [] .object (fs.standing p) = _ at hlook
  obtain ⟨y, hway, harr⟩ := comesTo_eq_ok_iff.1 hlook
  rw [harr.eq_of_held rfl (by simp)] at hway
  have hheld : fs.get? dir = some (.directory mode) := harr.entry_eq.symm
  refine ⟨mode, slashed, ?_⟩
  change (fs.erase q).comesTo [] .object (fs.standing p) = _
  rw [comesTo_eq_of_way (way_erase hq hlooks hway), comesTo, walkLinks_nil, get?_erase, if_neg,
    hheld]
  rintro rfl
  exact hq mode hheld

theorem NamesDirectory.insert (h : fs.NamesDirectory p dir) (free : fs.get? q = none) (e : Entry) :
    (fs.insert q e).NamesDirectory p dir := by
  refine h.of_keeps rfl fun place old hold => ?_
  rw [get?_insert, if_neg, hold]
  rintro rfl
  rw [free] at hold
  cases hold

/-- What is looked at on the way to a directory is gone through. -/
theorem NamesDirectory.of_looksAt {d : Place} {m : String} (h : fs.NamesDirectory p dir)
    (hlooks : fs.LooksAt [] .object (fs.standing p) (m :: d)) :
    fs.Searchable d ∧ ¬ maxNameSize < m.utf8ByteSize := by
  obtain ⟨mode, slashed, hlook⟩ := h
  change fs.comesTo [] .object (fs.standing p) = _ at hlook
  obtain ⟨y, hway, harr⟩ := comesTo_eq_ok_iff.1 hlook
  rw [harr.eq_of_held rfl (by simp)] at hway
  generalize y.links = fewer at hway
  obtain ⟨links, s, _, _, rest, hname, hbefore⟩ := hlooks
  obtain ⟨rfl, rfl⟩ := List.cons.inj hname
  rcases eq_or_advances_of_way hway hbefore with heq | ⟨z, hz⟩
  · cases heq
  · cases hz with
    | name search admits => exact ⟨search, admits.2⟩
    | link search admits => exact ⟨search, admits.2⟩

/-- Without an entry that is on the way to a directory, nothing is found there. -/
theorem NamesDirectory.lookup_erase (h : fs.NamesDirectory p dir)
    (hq : ∀ mode, fs.get? q ≠ some (.directory mode))
    (hlooks : fs.LooksAt [] .object (fs.standing p) q) (n : String) :
    (fs.erase q).lookup [] (fs.erase q).workDir (p.child n).route .entry = .error .missing := by
  obtain ⟨links, s, d, m, rest, rfl, hbefore⟩ := id hlooks
  have hd := h.of_looksAt hlooks
  obtain ⟨links', s', rest', hway'⟩ := exists_way_erase hq hbefore
  -- the way ends where the entry was, and whatever comes after it is looked for in nothing
  have hgone : (fs.erase (m :: d)).get? (m :: d) = none := by rw [get?_erase, if_pos rfl]
  have hnowhere : ¬ (fs.erase (m :: d)).Searchable (m :: d) := by
    rintro ⟨mode, hmode, -⟩
    rw [hgone] at hmode
    cases hmode
  have hlook : (fs.erase (m :: d)).lookup [] (fs.erase (m :: d)).workDir p.route .object =
      if rest'.isEmpty then .ok ⟨m :: d, none, s'⟩ else .error .missing := by
    change (fs.erase (m :: d)).comesTo [] .object (fs.standing p) = _
    rw [comesTo_eq_of_way hway', comesTo_name (hd.1.erase hq), if_neg (by simp), if_neg hd.2, hgone]
  rw [FileSystem.lookup_child, hlook]
  split
  · change (fs.erase (m :: d)).comesTo [] .entry ⟨0, false, m :: d, [.name n]⟩ = _
    rw [comesTo_of_not_searchable hnowhere, hgone]
    rfl
  · rfl

end Erase

end FileSystem

namespace NameResolution

/-- The link is in the directory that a path names, in the place of a link or of an empty file at
most, and nothing else was changed, but that directories were made on the way there. -/
structure Placed (fs fs' : FileSystem) (p : Path) (dir : Place) : Prop where
  names : fs'.NamesDirectory p dir
  link : fs'.get? (fileName :: dir) = some (.link linkText)
  before : ∀ e, fs.get? (fileName :: dir) = some e →
    (∃ target, e = .link target) ∨ ∃ mode content, e = .file mode content ∧ content.size = 0
  keeps : ∀ q e, q ≠ fileName :: dir → fs.get? q = some e → fs'.get? q = some e
  added : ∀ q, q ≠ fileName :: dir → fs.get? q = none → fs'.get? q ≠ none →
    fs'.IsDirectory q ∧ q <:+ dir

/-- Making sure of the name servers changes nothing unless it makes the link, if it does not fail
for something else than the shape of the tree. -/
structure Tidy (fs : FileSystem) (root : Path) : Prop where
  kept : (ensure root fs).1 = .ok false → (ensure root fs).2 = fs
  failed : ∀ e, (ensure root fs).1 = .error e → ¬ e.IsHindrance → (ensure root fs).2 = fs
  linked : (ensure root fs).1 = .ok true →
    ∃ p dir, resolve fs root directory = .ok p ∧ Placed fs (ensure root fs).2 p dir

/-- What is to be removed for the link is on the way to the directory of the link. -/
structure Undermined (fs : FileSystem) (root p : Path) (dir : Place) : Prop where
  wanted : isNonEmptyFile fs root (directory.child fileName) = .ok false
  resolves : resolve fs root directory = .ok p
  names : fs.NamesDirectory p dir
  held : ∃ e, fs.get? (fileName :: dir) = some e ∧ e.isDirectory = false
  passed : fs.LooksAt [] .object (fs.standing p) (fileName :: dir)
  askable : (p.child fileName).Askable
  writable : fs.permits dir .write = true

section Replacing

variable {fs fs₁ : FileSystem} {root p : Path} {dir q : Place} {e : Entry}

theorem isLinkText_linkText : IsLinkText linkText := by
  refine ⟨?_, ?_, ?_⟩ <;> decide

theorem ensure_eq_putLink (hpath : resolve fs root directory = .ok p)
    (hanswer : isNonEmptyFile fs root (directory.child fileName) = .ok false) :
    ensure root fs =
      (FileAction.makeDirectories p directoryMode >>= fun _ => putLink (p.child fileName)) fs := by
  rw [ensure_apply, hpath, hanswer]

/-- The link is made, or that fails. -/
theorem makeLink_true_apply (file : Path) (fs : FileSystem) :
    (do Action.change (·.makeLink linkText file); return true : FileAction Bool) fs =
      match fs.makeLink linkText file with
      | .ok fs' => (.ok true, fs')
      | .error e => (.error e, fs) := by
  rw [Action.bind_apply]
  rcases hlink : fs.makeLink linkText file with e | fs'
  · rw [Action.change_apply_error hlink]
  · rw [Action.change_apply_ok hlink]
    rfl

theorem putLink_of_absent {file : Path} {e : Failure} (h : fs.entryAt file .entry = .error e) :
    putLink file fs =
      match fs.makeLink linkText file with
      | .ok fs' => (.ok true, fs')
      | .error e => (.error e, fs) := by
  unfold putLink
  rw [Action.bind_apply, Action.get_apply]
  simp only [holds, h, Except.isOk, Except.toBool, Bool.false_eq_true, if_false]
  exact makeLink_true_apply file fs

theorem putLink_of_held {file : Path} (h : fs.entryAt file .entry = .ok e) :
    putLink file fs =
      match fs.unlink file with
      | .ok fs₁ =>
        match fs₁.makeLink linkText file with
        | .ok fs' => (.ok true, fs')
        | .error e => (.error e, fs₁)
      | .error e => (.error e, fs) := by
  unfold putLink
  rw [Action.bind_apply, Action.get_apply]
  simp only [holds, h, Except.isOk, Except.toBool, if_true]
  rw [Action.bind_apply]
  rcases hunlink : fs.unlink file with e | fs₁
  · rw [Action.change_apply_error hunlink]
  · rw [Action.change_apply_ok hunlink]
    exact makeLink_true_apply file fs₁

/-- Where there is an entry under the name of the link, its directory is there. -/
theorem ensure_of_held (hpath : resolve fs root directory = .ok p)
    (hanswer : isNonEmptyFile fs root (directory.child fileName) = .ok false)
    (held : fs.entryAt (p.child fileName) .entry = .ok e) :
    ensure root fs = putLink (p.child fileName) fs := by
  obtain ⟨dir, ⟨mode, slashed, hlook⟩, -, -⟩ := exists_of_entryAt held
  have found : fs.locate p.text p.route .object = .ok ⟨dir, some (.directory mode), slashed⟩ := by
    rw [locate_of_askable (askable_of_entryAt held).of_child, hlook]
    rfl
  rw [ensure_eq_putLink hpath hanswer, Action.bind_apply, makeDirectories_found found]

theorem ne_directory_of_file (held : fs.get? q = some e) (hfile : e.isDirectory = false)
    (mode : Nat) : fs.get? q ≠ some (.directory mode) := by
  intro hmode
  obtain rfl := Option.some.inj (held.symm.trans hmode)
  cases hfile

/-- What is removed for the link is replaced by it, unless it is on the way to the directory. -/
theorem putLink_eq_insert (hnames : fs.NamesDirectory p dir)
    (held : fs.entryAt (p.child fileName) .entry = .ok e) (hfile : e.isDirectory = false)
    (writable : fs.permits dir .write = true)
    (hlooks : ¬ fs.LooksAt [] .object (fs.standing p) (fileName :: dir)) :
    (fs.insert (fileName :: dir) (.link linkText)).NamesDirectory p dir ∧
      putLink (p.child fileName) fs = (.ok true, fs.insert (fileName :: dir) (.link linkText)) := by
  obtain ⟨dir', hnames', search, hget⟩ := exists_of_entryAt held
  obtain rfl := hnames.eq hnames'
  have hask := askable_of_entryAt held
  have hq := ne_directory_of_file hget hfile
  have hnames₂ := hnames.erase hq hlooks
  have free : (fs.erase (fileName :: dir)).get? (fileName :: dir) = none := by
    rw [get?_erase, if_pos rfl]
  have writable₂ : (fs.erase (fileName :: dir)).permits dir .write = true := by
    rw [permits, get?_erase, if_neg (List.cons_ne_self _ _).symm]
    exact writable
  have hunlink := hnames.unlink_eq search (by decide) hask hget hfile writable
  have hlink := hnames₂.makeLink_eq (search.erase hq) (by decide) hask free writable₂
    isLinkText_linkText
  rw [insert_erase] at hlink
  refine ⟨insert_erase fs _ _ ▸ hnames₂.insert free _, ?_⟩
  simp only [putLink_of_held held, hunlink, hlink]

theorem Undermined.ensure_eq (h : Undermined fs root p dir) : ensure root fs =
    (.error (Obstacle.missing.failure [linkText, (p.child fileName).text]),
      fs.erase (fileName :: dir)) := by
  obtain ⟨e, hget, hfile⟩ := h.held
  have search : fs.Searchable dir := (h.names.of_looksAt h.passed).1
  have held := h.names.entryAt_child search (by decide) h.askable hget
  have hunlink := h.names.unlink_eq search (by decide) h.askable hget hfile h.writable
  have hlink := makeLink_of_lookup_error h.askable
    (h.names.lookup_erase (ne_directory_of_file hget hfile) h.passed fileName) isLinkText_linkText
  rw [ensure_of_held h.resolves h.wanted held]
  simp only [putLink_of_held held, hunlink, hlink]

theorem placed_insert (made : Made fs fs₁ p dir)
    (hnames : (fs₁.insert (fileName :: dir) (.link linkText)).NamesDirectory p dir)
    (before : ∀ e, fs.get? (fileName :: dir) = some e →
      (∃ target, e = .link target) ∨ ∃ mode content, e = .file mode content ∧ content.size = 0) :
    Placed fs (fs₁.insert (fileName :: dir) (.link linkText)) p dir := by
  have hother : ∀ q, q ≠ fileName :: dir →
      (fs₁.insert (fileName :: dir) (.link linkText)).get? q = fs₁.get? q := by
    intro q hq
    rw [get?_insert, if_neg hq]
  refine ⟨hnames, by rw [get?_insert, if_pos rfl], before, fun q e hne hq => ?_,
    fun q hne hq hq' => ?_⟩
  · rw [hother q hne]
    exact made.grows.keeps q e hq
  · rw [hother q hne] at hq'
    obtain ⟨e, he⟩ := Option.ne_none_iff_exists'.1 hq'
    refine ⟨?_, made.around q hq hq'⟩
    rcases made.grows.added q e he with hold | hdir
    · rw [hq] at hold
      cases hold
    · cases e with
      | directory mode => exact ⟨mode, (hother q hne).trans he⟩
      | file => cases hdir
      | link => cases hdir

theorem makeLink_of_long {target : String} {file : Path}
    (hnul : file.text.toList.contains '\x00' = false)
    (hlong : FileSystem.maxPathSize ≤ file.text.utf8ByteSize) (htarget : IsLinkText target) :
    fs.makeLink target file = .error (Obstacle.nameTooLong.failure [target, file.text]) := by
  obtain ⟨hnone, hempty, hsize⟩ := htarget
  unfold makeLink makeLinkAt locateNamed
  simp only [hnone, hnul, hempty, Bool.or_self, Bool.false_eq_true, if_false]
  rw [if_neg (by omega), if_pos hlong]
  rfl

/-- Where there is nothing under the name of the link, it is made, or nothing was changed so far, or
something else than the shape of the tree is in the way. -/
theorem placed_of_absent (hwf : fs.WellFormed) (made : Made fs fs₁ p dir) {e : Failure}
    (habsent : fs₁.entryAt (p.child fileName) .entry = .error e) :
    Accomplishes fs true (Placed fs · p dir) (putLink (p.child fileName) fs₁) := by
  rw [putLink_of_absent habsent]
  rcases hlink : fs₁.makeLink linkText (p.child fileName) with e' | fs'
  · refine .inr ⟨e', rfl, ?_⟩
    rcases made.fresh with rfl | ⟨hnone, search, writable, hask⟩
    · exact .inl rfl
    have free := made.get?_cons hwf hnone fileName
    have hnul := Path.contains_text_child hask.1 (n := fileName) (by decide)
    by_cases hlong : FileSystem.maxPathSize ≤ (p.child fileName).text.utf8ByteSize
    · rw [makeLink_of_long hnul hlong isLinkText_linkText] at hlink
      exact .inr ⟨_, _, .inr rfl, (Except.error.inj hlink).symm⟩
    · rw [made.names.makeLink_eq search (by decide) ⟨hnul, by omega⟩ free writable
        isLinkText_linkText] at hlink
      cases hlink
  · obtain ⟨dir', hnames, -, free, -, -, rfl⟩ := exists_of_makeLink hlink
    obtain rfl := made.names.eq hnames
    refine .inl ⟨rfl, placed_insert made (made.names.insert free _) fun e he => ?_⟩
    rw [made.grows.keeps _ _ he] at free
    cases free

/-- Where there is an entry under the name of the link, the link takes its place, or nothing was
changed. -/
theorem placed_of_held (hwf : fs.WellFormed) (made : Made fs fs₁ p dir)
    (hpath : resolve fs root directory = .ok p)
    (hanswer : isNonEmptyFile fs root (directory.child fileName) = .ok false)
    (hsound : ¬ Undermined fs root p dir)
    (held : fs₁.entryAt (p.child fileName) .entry = .ok e) :
    Accomplishes fs true (Placed fs · p dir) (putLink (p.child fileName) fs₁) := by
  obtain ⟨dir', hnames, search, hget⟩ := exists_of_entryAt held
  obtain rfl := made.names.eq hnames
  obtain rfl : fs₁ = fs := by
    -- in a directory that was just made there is no entry
    refine made.fresh.resolve_right fun ⟨hnone, _⟩ => ?_
    rw [made.get?_cons hwf hnone fileName] at hget
    cases hget
  rcases hunlink : fs₁.unlink (p.child fileName) with e' | fs'
  · rw [putLink_of_held held, hunlink]
    exact .inr ⟨e', rfl, .inl rfl⟩
  obtain ⟨dir', e', hnames', -, hget', hfile, writable, -⟩ := exists_of_unlink hunlink
  obtain rfl := hnames.eq hnames'
  obtain rfl := Option.some.inj (hget.symm.trans hget')
  have hlooks : ¬ fs₁.LooksAt [] .object (fs₁.standing p) (fileName :: dir) := fun h =>
    hsound ⟨hanswer, hpath, hnames, ⟨e, hget, hfile⟩, h, askable_of_entryAt held, writable⟩
  obtain ⟨hnames₂, hput⟩ := putLink_eq_insert hnames held hfile writable hlooks
  rw [hput]
  refine .inl ⟨rfl, placed_insert made hnames₂ fun old hold => ?_⟩
  obtain rfl := Option.some.inj (hget.symm.trans hold)
  have hsafe := isNonEmptyFile_of_child hpath hanswer held
  cases e with
  | directory => cases hfile
  | file mode content =>
    refine .inr ⟨mode, content, rfl, ?_⟩
    simpa [Entry.isNonEmptyFile] using hsafe
  | link target => exact .inl ⟨target, rfl⟩

theorem tidy_of_unchanged (hsame : (ensure root fs).2 = fs) (hno : (ensure root fs).1 ≠ .ok true) :
    Tidy fs root :=
  ⟨fun _ => hsame, fun _ _ _ => hsame, fun h => absurd h hno⟩

theorem isOpenMode_linkDirectory : IsOpenMode directoryMode := by
  rintro (_ | _ | _) h
  · exact absurd rfl h
  · decide
  · decide

theorem placed_of_makeDirectories (hwf : fs.WellFormed) (hroot : fs.Grounds root)
    (hpath : resolve fs root directory = .ok p)
    (hanswer : isNonEmptyFile fs root (directory.child fileName) = .ok false)
    (hsound : ∀ p dir, ¬ Undermined fs root p dir) :
    Accomplishes fs true (fun fs' => ∃ dir, Placed fs fs' p dir) (ensure root fs) := by
  rw [ensure_eq_putLink hpath hanswer]
  obtain ⟨names, rfl⟩ := resolve_eq_below hpath
  refine (makeDirectories_cases hwf hroot names isOpenMode_linkDirectory).bind ?_
  rintro fs₁ ⟨dir, hmade⟩
  refine Or.imp_left (And.imp_right fun hplaced => ⟨dir, hplaced⟩) ?_
  rcases hentry : fs₁.entryAt ((below root names).child fileName) .entry with e | e
  · exact placed_of_absent hwf hmade hentry
  · exact placed_of_held hwf hmade hpath hanswer (hsound _ _) hentry

theorem not_isHindrance_missing (files : List String) :
    ¬ (Obstacle.missing.failure files).IsHindrance := by
  rintro ⟨o, files', rfl | rfl, heq⟩ <;> cases heq

/-- Making sure of the name servers is tidy unless what is to be removed for the link is on the way
to its directory. -/
theorem ensure_tidy_iff (hwf : fs.WellFormed) (hroot : fs.Grounds root) :
    Tidy fs root ↔ ∀ p dir, ¬ Undermined fs root p dir := by
  constructor
  · intro htidy p dir h
    have heq := h.ensure_eq
    obtain ⟨e, held, -⟩ := h.held
    have hsame := htidy.failed _ (congrArg Prod.fst heq) (not_isHindrance_missing _)
    rw [heq] at hsame
    have hgone := congrArg (FileSystem.get? · (fileName :: dir)) hsame
    simp only [get?_erase, if_true, held] at hgone
    cases hgone
  · intro hsound
    rcases hpath : resolve fs root directory with e | p
    · have heq : ensure root fs = (.error e, fs) := by rw [ensure_apply, hpath]
      exact tidy_of_unchanged (by rw [heq]) (by rw [heq]; exact nofun)
    rcases hanswer : isNonEmptyFile fs root (directory.child fileName) with e | _ | _
    · have heq : ensure root fs = (.error e, fs) := by rw [ensure_apply, hpath, hanswer]
      exact tidy_of_unchanged (by rw [heq]) (by rw [heq]; exact nofun)
    · rcases placed_of_makeDirectories hwf hroot hpath hanswer hsound with
        ⟨hok, dir, hplaced⟩ | ⟨e, he, hsame⟩
      · refine ⟨fun h => ?_, fun e h => ?_, fun _ => ⟨p, dir, hpath, hplaced⟩⟩ <;>
          rw [hok] at h <;> cases h
      · refine ⟨fun h => ?_, fun e' h hshape => ?_, fun h => ?_⟩ <;> rw [he] at h <;> cases h
        exact hsame.resolve_right hshape
    · have heq : ensure root fs = (.ok false, fs) := by rw [ensure_apply, hpath, hanswer]
      exact tidy_of_unchanged (by rw [heq]) (by rw [heq]; exact nofun)

end Replacing

section Hosts

/-- A host with an image whose directory for the link is the image itself, by way of a missing name
and of what is to be removed. -/
def underminedHost : FileSystem :=
  (emptyHost.insert [fileName, "root", "work"] (.link ".")).insert ["etc", "root", "work"]
    (.link ("gone/../" ++ fileName))

theorem wellFormed_servedHost (target : String) : (servedHost target).WellFormed :=
  ((wellFormed_emptyHost.insert 0o755 (by decide) (by decide)).insert 0o755
    rfl rfl).insert 0o755 rfl rfl

theorem wellFormed_underminedHost : underminedHost.WellFormed :=
  (wellFormed_emptyHost.insert 0o755 (by decide) (by decide)).insert 0o755
    (by decide +kernel) (by decide +kernel)

theorem undermined_underminedHost :
    Undermined underminedHost imageRoot (below imageRoot [fileName]) ["root", "work"] where
  wanted := by decide +kernel
  resolves := by decide +kernel
  names := ⟨0o755, false, by decide +kernel⟩
  held := ⟨.link ".", by decide +kernel, rfl⟩
  passed := ⟨40, false, ["root", "work"], fileName, [], rfl,
    .single (.name ⟨0o755, by decide +kernel, by decide⟩ ⟨by simp, by decide⟩
      (e := .directory 0o755) (by decide +kernel) (by simp))⟩
  askable := by decide +kernel
  writable := by decide +kernel

/-- The way to the directory of the link is there without the link. -/
theorem not_undermined_servedHost (target : String) :
    ∀ p dir, ¬ Undermined (servedHost target) imageRoot p dir := by
  intro p dir h
  have hpath : resolve (servedHost target) imageRoot directory =
      .ok (below imageRoot ["etc"]) := rfl
  obtain rfl := Except.ok.inj (hpath.symm.trans h.resolves)
  have hnames : (servedHost target).NamesDirectory (below imageRoot ["etc"])
      ["etc", "root", "work"] := ⟨0o755, false, rfl⟩
  obtain rfl := hnames.eq h.names
  have hroot : Advances (servedHost target) [] .object
      ⟨40, false, ["work"], [.name "root", .name "etc"]⟩
      ⟨40, false, ["root", "work"], [.name "etc"]⟩ :=
    .name ⟨0o755, rfl, by decide⟩ ⟨by simp, by decide⟩ (e := .directory 0o755) rfl (by simp)
  have hetc : Advances (servedHost target) [] .object
      ⟨40, false, ["root", "work"], [.name "etc"]⟩ ⟨40, false, ["etc", "root", "work"], []⟩ :=
    .name ⟨0o755, rfl, by decide⟩ ⟨by simp, by decide⟩ (e := .directory 0o755) rfl (by simp)
  refine Along.not_looksAt (.head hroot (.head hetc (along_done ?_) ?_) ?_) h.passed
  · simp
  · simp [fileName]
  · simp [fileName]

/-- A link to nowhere is replaced, and nothing else is changed. Where the way to the directory goes
through the link that is to be replaced, it is lost. -/
theorem ensure_tidy_hosts :
    ((servedHost "gone").WellFormed ∧ (servedHost "gone").Grounds imageRoot ∧
      (∀ p dir, ¬ Undermined (servedHost "gone") imageRoot p dir) ∧
      (ensure imageRoot (servedHost "gone")).1 = .ok true ∧ Tidy (servedHost "gone") imageRoot) ∧
    underminedHost.WellFormed ∧ underminedHost.Grounds imageRoot ∧
      Undermined underminedHost imageRoot (below imageRoot [fileName]) ["root", "work"] ∧
      ¬ Tidy underminedHost imageRoot := by
  have hserved : (servedHost "gone").NamesDirectory imageRoot ["root", "work"] :=
    ⟨0o755, false, rfl⟩
  have hunder : underminedHost.NamesDirectory imageRoot ["root", "work"] :=
    ⟨0o755, false, by decide +kernel⟩
  have hsound := not_undermined_servedHost "gone"
  refine ⟨⟨wellFormed_servedHost _, hserved.grounds, hsound, by decide +kernel, ?_⟩,
    wellFormed_underminedHost, hunder.grounds, undermined_underminedHost, fun htidy => ?_⟩
  · exact (ensure_tidy_iff (wellFormed_servedHost _) hserved.grounds).2 hsound
  · exact (ensure_tidy_iff wellFormed_underminedHost hunder.grounds).1 htidy _ _
      undermined_underminedHost

end Hosts

end NameResolution

end GuestImage
