import GuestImage.Proofs.Replacing

/-!
# Name servers that are settled

To make sure of the name servers once more is to leave everything as it is where they are settled
(`Settled`). That is so where the image has name servers of its own, or where the link is in its
place: in the directory that is resolved to, and not on the way there (`InPlace`, `settled_iff`).

A call that makes the link makes it in a tree in which directories were added and room was made for
it (`Installs`, `exists_installs`), and on the way to its directory nobody comes by it
(`Installs.unpassed`).
-/

namespace GuestImage

open FileSystem
open NameResolution (below)

section Ways

variable {fs fs' : FileSystem} {top dir q : Place} {goal : Goal} {x y : Standing} {root p : Path}

/-- What is added to a tree does not turn aside a way that has an end. -/
theorem FileSystem.way_of_keeps {links : Nat} {slashed : Bool}
    (keeps : ∀ q e, fs.get? q = some e → fs'.get? q = some e)
    (hend : Relation.ReflTransGen (Advances fs top goal) x ⟨links, slashed, dir, []⟩)
    (hy : Relation.ReflTransGen (Advances fs' top goal) x y) :
    Relation.ReflTransGen (Advances fs top goal) x y := by
  induction hend using Relation.ReflTransGen.head_induction_on with
  | refl =>
    rcases hy.cases_head with rfl | ⟨z, hz, -⟩
    · exact .refl
    · cases hz
  | head hfirst _ ih =>
    rcases hy.cases_head with rfl | ⟨z, hz, hrest⟩
    · exact .refl
    · obtain rfl := hz.eq (hfirst.of_keeps keeps)
      exact .head hfirst (ih hrest)

/-- On the way to a directory nobody comes by a place where there is nothing, nor by what is put
there later. -/
theorem FileSystem.NamesDirectory.not_looksAt_insert (h : fs.NamesDirectory p dir)
    (free : fs.get? q = none) (e : Entry) :
    ¬ (fs.insert q e).LooksAt [] .object ((fs.insert q e).standing p) q := by
  obtain ⟨mode, slashed, hlook⟩ := h
  change fs.comesTo [] .object (fs.standing p) = _ at hlook
  obtain ⟨y, hway, harr⟩ := comesTo_eq_ok_iff.1 hlook
  rw [harr.eq_of_held rfl (by simp)] at hway
  have keeps : ∀ place old, fs.get? place = some old → (fs.insert q e).get? place = some old := by
    intro place old hold
    rw [get?_insert, if_neg, hold]
    rintro rfl
    rw [free] at hold
    cases hold
  rintro ⟨links, s, d, n, rest, rfl, hlooks⟩
  have hbefore := way_of_keeps keeps hway hlooks
  rcases eq_or_advances_of_way hway hbefore with heq | ⟨z, hz⟩
  · cases heq
  · cases hz with
    | name _ _ held => rw [free] at held; cases held
    | link _ _ held => rw [free] at held; cases held

theorem FileSystem.NamesDirectory.exists_of_suffix {names inner : List String}
    (h : fs.NamesDirectory (below root names) dir) (hinner : inner <:+ names) :
    ∃ outer, fs.NamesDirectory (below root inner) outer := by
  induction names generalizing dir with
  | nil => exact ⟨dir, (List.suffix_nil.1 hinner) ▸ h⟩
  | cons n names ih =>
    rcases List.suffix_cons_iff.1 hinner with rfl | hinner
    · exact ⟨dir, h⟩
    · rw [← NameResolution.child_below] at h
      obtain ⟨outer, -, houter, -⟩ := h.of_child
      exact ih houter hinner

end Ways

namespace NameResolution

/-- Making sure of the name servers does not fail, and leaves every entry as it is. -/
def Settled (fs : FileSystem) (root : Path) : Prop :=
  (∃ linked, (ensure root fs).1 = .ok linked) ∧ ∀ q, (ensure root fs).2.get? q = fs.get? q

/-- A tree with the link in a directory. -/
abbrev withLink (fs : FileSystem) (dir : Place) : FileSystem :=
  fs.insert (fileName :: dir) (.link linkText)

/-- The link is where it would be put, and it would be put there. -/
structure InPlace (fs : FileSystem) (root p : Path) (dir : Place) : Prop where
  wanted : isNonEmptyFile fs root (directory.child fileName) = .ok false
  resolves : resolve fs root directory = .ok p
  names : fs.NamesDirectory p dir
  search : fs.Searchable dir
  link : fs.get? (fileName :: dir) = some (.link linkText)
  unpassed : ¬ fs.LooksAt [] .object (fs.standing p) (fileName :: dir)
  askable : (p.child fileName).Askable
  writable : fs.permits dir .write = true

/-- A tree in which the link is to be made: the directory for it is there, and nothing is in its
place. Apart from its place, everything is as it was but for directories around it. -/
structure Installs (fs mid : FileSystem) (p : Path) (dir : Place) : Prop where
  names : mid.NamesDirectory p dir
  search : mid.Searchable dir
  writable : mid.permits dir .write = true
  askable : (p.child fileName).Askable
  free : mid.get? (fileName :: dir) = none
  room : ∀ mode, fs.get? (fileName :: dir) ≠ some (.directory mode)
  workDir : mid.workDir = fs.workDir
  wellFormed : mid.WellFormed
  keeps : ∀ q e, q ≠ fileName :: dir → fs.get? q = some e → mid.get? q = some e
  added : ∀ q e, mid.get? q = some e → fs.get? q = some e ∨ e.isDirectory = true ∧ q <:+ dir

section Settling

variable {fs fs₁ fs' mid : FileSystem} {root p : Path} {dir q : Place} {e : Entry}

theorem InPlace.ensure_eq (h : InPlace fs root p dir) :
    ensure root fs = (.ok true, withLink fs dir) := by
  have held := h.names.entryAt_child h.search (by decide) h.askable h.link
  rw [ensure_of_held h.resolves h.wanted held]
  exact (putLink_eq_insert h.names held rfl h.writable h.unpassed).2

theorem InPlace.settled (h : InPlace fs root p dir) : Settled fs root := by
  rw [Settled, h.ensure_eq]
  refine ⟨⟨true, rfl⟩, fun q => ?_⟩
  rw [get?_insert]
  split_ifs with hq
  · exact hq ▸ h.link.symm
  · rfl

theorem settled_of_ensure_false (h : (ensure root fs).1 = .ok false) : Settled fs root := by
  have hfile := isNonEmptyFile_eq_true_iff.2 (ensure_eq_false_iff.1 h)
  refine ⟨⟨false, h⟩, fun q => ?_⟩
  rw [ensure_apply]
  rcases resolve fs root directory with e | p
  · rfl
  · rw [hfile]

theorem installs_of_absent (made : Made fs mid p dir) (search : mid.Searchable dir)
    (writable : mid.permits dir .write = true) (askable : (p.child fileName).Askable)
    (free : mid.get? (fileName :: dir) = none) : Installs fs mid p dir where
  names := made.names
  search := search
  writable := writable
  askable := askable
  free := free
  room mode hmode := by
    rw [made.grows.keeps _ _ hmode] at free
    cases free
  workDir := made.grows.workDir
  wellFormed := made.wellFormed
  keeps q e _ := made.grows.keeps q e
  added q e hq := by
    rcases hold : fs.get? q with _ | old
    · refine .inr ⟨?_, made.around q hold (by simp [hq])⟩
      exact (made.grows.added q e hq).resolve_left (by simp [hold])
    · rw [made.grows.keeps q old hold] at hq
      exact .inl hq

theorem installs_erase (hwf : fs.WellFormed) (held : fs.get? (fileName :: dir) = some e)
    (hfile : e.isDirectory = false) (hnames : (fs.erase (fileName :: dir)).NamesDirectory p dir)
    (search : (fs.erase (fileName :: dir)).Searchable dir)
    (writable : (fs.erase (fileName :: dir)).permits dir .write = true)
    (askable : (p.child fileName).Askable) : Installs fs (fs.erase (fileName :: dir)) p dir where
  names := hnames
  search := search
  writable := writable
  askable := askable
  free := by rw [get?_erase, if_pos rfl]
  room := ne_directory_of_file held hfile
  workDir := rfl
  wellFormed := hwf.erase held hfile
  keeps q old hq hold := by rw [get?_erase, if_neg hq, hold]
  added q old hold := by
    rw [get?_erase] at hold
    split_ifs at hold
    exact .inl hold

theorem exists_installs_of_putLink (hwf : fs.WellFormed) (made : Made fs fs₁ p dir)
    (h : (putLink (p.child fileName) fs₁).1 = .ok true) :
    ∃ mid, Installs fs mid p dir ∧
      (putLink (p.child fileName) fs₁).2 = withLink mid dir := by
  rcases hentry : fs₁.entryAt (p.child fileName) .entry with e | e
  · rw [putLink_of_absent hentry] at h ⊢
    rcases hlink : fs₁.makeLink linkText (p.child fileName) with e' | fs'
    · rw [hlink] at h
      cases h
    · obtain ⟨dir', hnames, search, free, writable, askable, rfl⟩ := exists_of_makeLink hlink
      obtain rfl := made.names.eq hnames
      exact ⟨fs₁, installs_of_absent made search writable askable free, rfl⟩
  · -- in a directory that was just made there is no entry
    obtain ⟨dir', hnames, -, hget⟩ := exists_of_entryAt hentry
    obtain rfl := made.names.eq hnames
    obtain rfl : fs₁ = fs := by
      refine made.fresh.resolve_right fun ⟨hnone, _⟩ => ?_
      rw [made.get?_cons hwf hnone fileName] at hget
      cases hget
    rw [putLink_of_held hentry] at h ⊢
    rcases hunlink : fs₁.unlink (p.child fileName) with e' | fs'
    · rw [hunlink] at h
      cases h
    obtain ⟨dir', e', hnames', -, hget', hfile, -, rfl⟩ := exists_of_unlink hunlink
    obtain rfl := hnames.eq hnames'
    rcases hlink : (fs₁.erase (fileName :: dir)).makeLink linkText (p.child fileName) with e'' | fs'
    · simp only [hunlink, hlink] at h
      cases h
    · simp only [hlink]
      obtain ⟨dir', hnames₂, search, -, writable, askable, rfl⟩ := exists_of_makeLink hlink
      have keeps : ∀ q old, (fs₁.erase (fileName :: dir)).get? q = some old →
          fs₁.get? q = some old := by
        intro q old hold
        rw [get?_erase] at hold
        split_ifs at hold
        exact hold
      obtain rfl := hnames.eq (hnames₂.of_keeps rfl keeps)
      exact ⟨_, installs_erase hwf hget' hfile hnames₂ search writable askable, rfl⟩

/-- A call that makes the link makes it in a tree with room for it. -/
theorem exists_installs (hwf : fs.WellFormed) (hroot : fs.Grounds root)
    (h : (ensure root fs).1 = .ok true) :
    ∃ names mid dir, resolve fs root directory = .ok (below root names) ∧
      isNonEmptyFile fs root (directory.child fileName) = .ok false ∧
      Installs fs mid (below root names) dir ∧
      (ensure root fs).2 = withLink mid dir := by
  rcases hpath : resolve fs root directory with e | p
  · rw [ensure_apply, hpath] at h
    cases h
  rcases hanswer : isNonEmptyFile fs root (directory.child fileName) with e | _ | _
  · rw [ensure_apply, hpath, hanswer] at h
    cases h
  · obtain ⟨names, rfl⟩ := resolve_eq_below hpath
    rw [ensure_eq_putLink hpath hanswer, Action.bind_apply] at h ⊢
    have hmake := makeDirectories_cases hwf hroot names isOpenMode_linkDirectory
    generalize FileAction.makeDirectories (below root names) directoryMode fs = x at h hmake
    obtain ⟨e | _, fs₁⟩ := x
    · cases h
    · obtain ⟨-, dir, hmade⟩ := hmake.resolve_right fun ⟨e, he, _⟩ => by cases he
      obtain ⟨mid, hinstalls, hmid⟩ := exists_installs_of_putLink hwf hmade h
      exact ⟨names, mid, dir, rfl, rfl, hinstalls, hmid⟩
  · rw [ensure_apply, hpath, hanswer] at h
    cases h

theorem Installs.unpassed (h : Installs fs mid p dir) :
    ¬ (withLink mid dir).LooksAt [] .object ((withLink mid dir).standing p) (fileName :: dir) :=
  h.names.not_looksAt_insert h.free _

theorem Installs.kept (h : Installs fs mid p dir) (hold : mid.get? q = some e) :
    (withLink mid dir).get? q = some e := by
  rw [get?_insert, if_neg, hold]
  rintro rfl
  rw [h.free] at hold
  cases hold

/-- The name servers are settled where the image has some of its own, or the link is in its
place. -/
theorem settled_iff (hwf : fs.WellFormed) (hroot : fs.Grounds root) :
    Settled fs root ↔ (ensure root fs).1 = .ok false ∨ ∃ p dir, InPlace fs root p dir := by
  constructor
  · rintro ⟨⟨linked, hlinked⟩, hsame⟩
    cases linked with
    | false => exact .inl hlinked
    | true =>
      obtain ⟨names, mid, dir, hpath, hanswer, hinstalls, hafter⟩ :=
        exists_installs hwf hroot hlinked
      rw [hafter] at hsame
      have hlink : fs.get? (fileName :: dir) = some (.link linkText) := by
        rw [← hsame, get?_insert, if_pos rfl]
      have keeps : ∀ q e, mid.get? q = some e → fs.get? q = some e := fun q e hq =>
        hsame q ▸ hinstalls.kept hq
      have hnames := hinstalls.names.of_keeps hinstalls.workDir.symm keeps
      have hwritable : fs.permits dir .write = true := by
        obtain ⟨mode, hmode, -⟩ := hinstalls.search
        have := hinstalls.writable
        rwa [permits, hmode, ← keeps _ _ hmode] at this
      refine .inr ⟨_, dir, hanswer, hpath, hnames, hinstalls.search.of_keeps keeps, hlink,
        fun hpassed => ?_, hinstalls.askable, hwritable⟩
      have hundermined : Undermined fs root (below root names) dir :=
        ⟨hanswer, hpath, hnames, ⟨_, hlink, rfl⟩, hpassed, hinstalls.askable, hwritable⟩
      rw [hundermined.ensure_eq] at hlinked
      cases hlinked
  · rintro (hkept | ⟨p, dir, hplace⟩)
    · exact settled_of_ensure_false hkept
    · exact hplace.settled

end Settling

end NameResolution

end GuestImage
