import GuestImage.Proofs.LinkFree
import Mathlib.Control.Monad.Basic

/-!
# The name servers of a guest and its host

What a path inside the image resolves to is looked up by the host. Where that stays below the root
(`Contained`), making sure that the image has name servers depends on nothing outside and changes
nothing there. It does stay where a resolution that reads every name comes to the same
(`contained_of_reading`).

It may leave the root where a step up follows a name that is missing: names after it are not read
any more, so one of them may be a link. If the host finds a directory there (`Lands`), the link to
the name servers is made in it, wherever it is (`Lands.ensure_eq`).
-/

namespace GuestImage.NameResolution

open FileSystem

/-- On a host with an image under a root, the lookups of what the paths of the name servers resolve
to stay below the root. The one of the directory is made only if the file is not there. -/
structure Contained (fs : FileSystem) (root : Path) (place : Place) : Prop where
  fileStays : ∀ names, resolve fs root (directory.child fileName) = .ok (below root names) →
    fs.Stays place .entry (standingAt place names)
  directoryStays : isNonEmptyFile fs root (directory.child fileName) = .ok false →
    ∀ names, resolve fs root directory = .ok (below root names) →
      fs.Stays place .entry (standingAt place (fileName :: names))

/-- The image has no name servers, and where the directory of the link resolves to the host finds a
directory that may be searched and written, without an entry of the name of the link. -/
structure Lands (fs : FileSystem) (root : Path) (dir : Place) : Prop where
  wanted : isNonEmptyFile fs root (directory.child fileName) = .ok false
  found : ∃ p slashed, resolve fs root directory = .ok p ∧
    fs.locate p.text p.route .object = .ok ⟨dir, fs.get? dir, slashed⟩ ∧
    (p.child fileName).text.toList.contains '\x00' = false ∧
    (p.child fileName).text.utf8ByteSize < FileSystem.maxPathSize
  searchable : fs.Searchable dir
  writable : fs.permits dir .write = true
  free : fs.get? (fileName :: dir) = none

/-- What is not strictly below a place is the same. -/
def SameOutside (place : Place) (fs fs' : FileSystem) : Prop :=
  ∀ q, ¬ (place <:+ q ∧ q ≠ place) → fs'.get? q = fs.get? q

/-- Making sure of the name servers on two hosts ends alike, with the same tree below the roots and
neither host changed outside. -/
structure Confined (root : Path) (place₁ : Place) (fs₁ : FileSystem) (place₂ : Place)
    (fs₂ : FileSystem) : Prop where
  outcome : (ensure root fs₁).1 = (ensure root fs₂).1
  tree : SameTree place₁ (ensure root fs₁).2 place₂ (ensure root fs₂).2
  left : SameOutside place₁ fs₁ (ensure root fs₁).2
  right : SameOutside place₂ fs₂ (ensure root fs₂).2

section Contained

variable {fs fs₁ fs₂ : FileSystem} {root : Path} {place place₁ place₂ : Place}

/-- The lookups stay below the root where reading every name comes to the same. -/
theorem contained_of_reading (hwf : fs.WellFormed) (hleads : fs.LeadsTo root place)
    (hfile : ∀ p, resolve fs root (directory.child fileName) = .ok p →
      reading fs root (directory.child fileName) = .ok p)
    (hdir : ∀ p, resolve fs root directory = .ok p → reading fs root directory = .ok p) :
    Contained fs root place where
  fileStays names h := by
    have hfree := linkFree_of_reading hwf hleads (hfile _ h)
    cases names with
    | nil =>
      intro y hy
      rcases hy.cases_head with rfl | ⟨z, hz, -⟩
      · exact List.suffix_rfl
      · cases hz
    | cons n names => exact hfree.tail.stays
  directoryStays _ names h := (linkFree_of_reading hwf hleads (hdir _ h)).stays

theorem resolve_sameTree (hwf₁ : fs₁.WellFormed) (hwf₂ : fs₂.WellFormed)
    (hleads₁ : fs₁.LeadsTo root place₁) (hleads₂ : fs₂.LeadsTo root place₂)
    (same : SameTree place₁ fs₁ place₂ fs₂) (relative : Path) :
    resolve fs₁ root relative = resolve fs₂ root relative :=
  congrArg _ (resolution_sameTree hwf₁ hwf₂ hleads₁ hleads₂ same)

theorem isNonEmptyFile_sameTree (hwf₁ : fs₁.WellFormed) (hwf₂ : fs₂.WellFormed)
    (hleads₁ : fs₁.LeadsTo root place₁) (hleads₂ : fs₂.LeadsTo root place₂)
    (same : SameTree place₁ fs₁ place₂ fs₂) (htop : place₁ = [] → place₂ = []) {relative : Path}
    (hstays : ∀ names, resolve fs₁ root relative = .ok (below root names) →
      fs₁.Stays place₁ .entry (standingAt place₁ names)) :
    isNonEmptyFile fs₁ root relative = isNonEmptyFile fs₂ root relative := by
  unfold isNonEmptyFile
  rw [← resolve_sameTree hwf₁ hwf₂ hleads₁ hleads₂ same]
  rcases hpath : resolve fs₁ root relative with e | p
  · rfl
  obtain ⟨names, rfl⟩ := resolve_eq_below hpath
  have hfile := hstays names hpath
  have htwins : Twins root place₁ place₂ ([] ++ names) fs₁ fs₂ :=
    ⟨⟨hwf₁, hleads₁, hfile⟩, ⟨hwf₂, hleads₂, hfile.of_sameTree (p := []) same htop⟩, same⟩
  simp only [bind, Except.bind]
  rw [htwins.find (.inr rfl)]

/-- Whether the lookups stay below the root is a matter of the tree there. -/
theorem Contained.of_sameTree (h : Contained fs₁ root place₁) (hwf₁ : fs₁.WellFormed)
    (hwf₂ : fs₂.WellFormed) (hleads₁ : fs₁.LeadsTo root place₁) (hleads₂ : fs₂.LeadsTo root place₂)
    (same : SameTree place₁ fs₁ place₂ fs₂) (htop : place₁ = [] → place₂ = []) :
    Contained fs₂ root place₂ where
  fileStays names hnames := by
    rw [← resolve_sameTree hwf₁ hwf₂ hleads₁ hleads₂ same] at hnames
    exact (h.fileStays names hnames).of_sameTree (p := []) same htop
  directoryStays hanswer names hnames := by
    rw [← resolve_sameTree hwf₁ hwf₂ hleads₁ hleads₂ same] at hnames
    rw [← isNonEmptyFile_sameTree hwf₁ hwf₂ hleads₁ hleads₂ same htop h.fileStays] at hanswer
    exact (h.directoryStays hanswer names hnames).of_sameTree (p := []) same htop

/-- What is done once the directory of the link is known comes to the same on twins. -/
theorem makeLinkIn_parallel (root : Path) (place₁ place₂ : Place) (names : List String) :
    Parallel root place₁ place₂ (fileName :: names) (do
      FileAction.makeDirectories (below root names) directoryMode
      if (← get).holds (below root (fileName :: names)) then
        Action.change (·.unlink (below root (fileName :: names)))
      Action.change (·.makeLink linkText (below root (fileName :: names)))
      return true) := by
  have hsteps : (below root names).steps.reverse = names.map .name ++ root.steps.reverse := by
    simp [below, Path.join]
  unfold FileAction.makeDirectories
  rw [hsteps]
  have hmade : Parallel root place₁ place₂ ([fileName] ++ names)
      (FileAction.makeDirectoriesTo root.anchor (names.map .name ++ root.steps.reverse)
        directoryMode) := makeDirectoriesTo_parallel directoryMode (by simp)
  refine .bind hmade fun _ => ?_
  refine .get_bind ?_ fun fs => ?_
  · intro fs₁ fs₂ h
    have h : Twins root place₁ place₂ ([] ++ fileName :: names) fs₁ fs₂ := h
    rw [FileSystem.holds, h.find (.inr rfl)]
    rfl
  · have hmake : Parallel root place₁ place₂ (fileName :: names)
        (Action.change (·.makeLink linkText (below root (fileName :: names)))) :=
      makeLink_parallel linkText
    have hlink := hmake.bind fun _ => .pure true
    dsimp only
    split
    · exact unlink_parallel.bind fun _ => hlink
    · exact hlink

/-- A directory that is there already is left as it is. -/
theorem makeDirectories_found {fs : FileSystem} {p : Path} {mode m : Nat} {dir : Place}
    {slashed : Bool}
    (found : fs.locate p.text p.route .object = .ok ⟨dir, some (.directory m), slashed⟩) :
    FileAction.makeDirectories p mode fs = (.ok (), fs) := by
  have hpath : (⟨p.anchor, p.steps.reverse.reverse⟩ : Path) = p := by rw [List.reverse_reverse]
  have hpresent : fs.makeDirectory p mode = .error (Obstacle.present.failure [p.text]) := by
    obtain ⟨t, e, ht, he⟩ := exists_comesTo_entry
      (x := ⟨FileSystem.maxLinks, p.route.slashed, fs.start p, p.route.steps⟩)
      (lookup_of_locateNamed found) rfl
    have hentry : fs.locate p.text p.route .entry = .ok t := by
      unfold locate locateNamed at found ⊢
      split_ifs at found ⊢
      exact congrArg (Except.mapError _) ht
    unfold makeDirectory makeDirectoryAt
    rw [hentry]
    simp only [bind, Except.bind, he]
  have hdirectory : fs.isDirectoryAt p = .ok true := by
    have hheld : fs.entryAt p .object = .ok (.directory m) := by
      unfold entryAt find
      rw [found]
      simp [bind, Except.bind, Target.held, Except.mapError, Entry.isDirectory]
    unfold FileSystem.isDirectoryAt
    rw [hheld]
    rfl
  have haccepted : FileAction.acceptDirectory p (Obstacle.present.failure [p.text]) fs =
      (.ok (), fs) := by
    have hrefusal : (Obstacle.present.failure [p.text]).isRefusal = true := rfl
    unfold FileAction.acceptDirectory
    rw [if_pos hrefusal, Action.bind_apply, Action.query_apply, hdirectory]
    rfl
  unfold FileAction.makeDirectories FileAction.makeDirectoriesTo
  rw [hpath, Action.bind_apply, Action.attempt_apply, Action.change_apply_error hpresent]
  exact haccepted

theorem Lands.locateNamed {fs : FileSystem} {root : Path} {place dir : Place} {names : List String}
    {slashed : Bool} (h : Lands fs root dir) (hleads : fs.LeadsTo root place)
    (found : fs.locate (below root names).text (below root names).route .object =
      .ok ⟨dir, fs.get? dir, slashed⟩)
    {text : String} (hnul : text.toList.contains '\x00' = false)
    (hsize : text.utf8ByteSize < FileSystem.maxPathSize) (files : List String) :
    fs.locateNamed files text (below root (fileName :: names)).route .entry =
      .ok ⟨fileName :: dir, none, false⟩ := by
  obtain ⟨mode, hdir, -⟩ := h.searchable
  have hlook := lookup_of_locateNamed found
  rw [lookup_below hleads, hdir] at hlook
  obtain ⟨y, hway, harr⟩ := comesTo_eq_ok_iff.1 hlook
  rw [harr.eq_of_held rfl (by simp)] at hway
  have hlonger : Relation.ReflTransGen (Advances fs [] .entry)
      (standingAt place ([fileName] ++ names)) ⟨y.links, false, dir, [.name fileName]⟩ := by
    rw [standingAt_append]
    exact way_append (by simp) (by simp) false hway
  unfold FileSystem.locateNamed
  rw [if_neg (Bool.eq_false_iff.1 hnul), if_neg (by omega), lookup_below hleads]
  have hcomes := (comesTo_eq_of_way hlonger).trans (comesTo_child h.searchable (by decide))
  rw [h.free] at hcomes
  exact congrArg (Except.mapError _) hcomes

/-- Where a directory is found, the link is made in it, and that is all. -/
theorem Lands.ensure_eq {fs : FileSystem} {root : Path} {place dir : Place}
    (h : Lands fs root dir) (hleads : fs.LeadsTo root place) :
    ensure root fs = (.ok true, fs.insert (fileName :: dir) (.link linkText)) := by
  obtain ⟨p, slashed, hpath, found, hnul, hsize⟩ := h.found
  obtain ⟨names, rfl⟩ := resolve_eq_below hpath
  obtain ⟨mode, hdir, -⟩ := h.searchable
  rw [child_below] at hnul hsize
  have hfile := h.locateNamed hleads found hnul hsize
  have hholds : fs.holds (below root (fileName :: names)) = false := by
    unfold holds entryAt find locate
    rw [hfile]
    rfl
  have hmade : fs.makeLink linkText (below root (fileName :: names)) =
      .ok (fs.insert (fileName :: dir) (.link linkText)) := by
    unfold makeLink makeLinkAt
    simp only [hnul, hfile, bind, Except.bind, List.tail_cons, h.writable]
    rfl
  unfold ensure
  rw [Action.bind_apply, Action.query_apply, hpath]
  simp only
  rw [Action.bind_apply, Action.query_apply, h.wanted]
  simp only [Bool.false_eq_true, if_false]
  rw [Action.bind_apply, makeDirectories_found (hdir ▸ found)]
  simp only [child_below]
  rw [Action.bind_apply, Action.get_apply]
  simp only [hholds, Bool.false_eq_true, if_false]
  rw [Action.bind_apply, Action.change_apply_ok hmade]
  rfl

section Hosts

/-- The root of an image in the working directory. -/
def imageRoot : Path := ⟨.relative, [.name "root"]⟩

/-- A host with an image that is empty. -/
def emptyHost : FileSystem :=
  (bare ["work"]).insert ["root", "work"] (.directory 0o755)

/-- A host with an image whose directory for the link is named by a path from the top. -/
def linkedHost : FileSystem :=
  (emptyHost.insert ["data", "root", "work"] (.directory 0o755)).insert ["etc", "root", "work"]
    (.link "/data")

/-- The same image on a host with a directory of its own in the place that the link names. -/
def busyHost : FileSystem :=
  linkedHost.insert ["data"] (.directory 0o755)

/-- A host with a directory beside an image, whose directory for the link is named by way of a
missing one and of a link that leads to the directory of the host. -/
def escapingHost : FileSystem :=
  ((emptyHost.insert ["host", "work"] (.directory 0o755)).insert ["out", "root", "work"]
    (.link "../host")).insert ["etc", "root", "work"] (.link "gone/../out")

theorem wellFormed_emptyHost : emptyHost.WellFormed :=
  (wellFormed_bare ["work"]).insert 0o755 (by decide) (by decide)

theorem wellFormed_linkedHost : linkedHost.WellFormed :=
  (wellFormed_emptyHost.insert 0o755 (by decide) (by decide)).insert 0o755
    (by decide) (by decide)

theorem contained_linkedHost : Contained linkedHost imageRoot ["root", "work"] := by
  have hdir : resolve linkedHost imageRoot directory = reading linkedHost imageRoot directory := by
    decide +kernel
  have hfile : resolve linkedHost imageRoot (directory.child fileName) =
      reading linkedHost imageRoot (directory.child fileName) := by
    decide +kernel
  exact contained_of_reading wellFormed_linkedHost ⟨0o755, by decide +kernel⟩
    (fun _ h => hfile ▸ h) fun _ h => hdir ▸ h

theorem wellFormed_escapingHost : escapingHost.WellFormed :=
  ((wellFormed_emptyHost.insert 0o755 (by decide) (by decide)).insert 0o755
    (by decide) (by decide)).insert 0o755 (by decide) (by decide)

theorem lands_escapingHost : Lands escapingHost imageRoot ["host", "work"] where
  wanted := by decide +kernel
  found := ⟨⟨.relative, [.name "root", .name "out"]⟩, false, by decide +kernel, by decide +kernel,
    by decide +kernel, by decide +kernel⟩
  searchable := ⟨0o755, by decide +kernel, by decide⟩
  writable := by decide +kernel
  free := by decide +kernel

end Hosts

theorem Contained.confined (h : Contained fs₁ root place₁) (hwf₁ : fs₁.WellFormed)
    (hwf₂ : fs₂.WellFormed) (hleads₁ : fs₁.LeadsTo root place₁) (hleads₂ : fs₂.LeadsTo root place₂)
    (same : SameTree place₁ fs₁ place₂ fs₂) (htop : place₁ = [] → place₂ = []) :
    Confined root place₁ fs₁ place₂ fs₂ := by
  have h₂ := h.of_sameTree hwf₁ hwf₂ hleads₁ hleads₂ same htop
  have hdir := resolve_sameTree hwf₁ hwf₂ hleads₁ hleads₂ same directory
  have hfile := isNonEmptyFile_sameTree hwf₁ hwf₂ hleads₁ hleads₂ same htop h.fileStays
  suffices hsteps : (ensure root fs₁).1 = (ensure root fs₂).1 ∧
      SameTree place₁ (ensure root fs₁).2 place₂ (ensure root fs₂).2 ∧
      SameOutside place₁ fs₁ (ensure root fs₁).2 ∧ SameOutside place₂ fs₂ (ensure root fs₂).2 from
    ⟨hsteps.1, hsteps.2.1, hsteps.2.2.1, hsteps.2.2.2⟩
  unfold ensure
  rw [Action.bind_apply, Action.bind_apply, Action.query_apply, Action.query_apply, ← hdir]
  rcases hpath : resolve fs₁ root directory with e | p
  · exact ⟨rfl, same, fun _ _ => rfl, fun _ _ => rfl⟩
  obtain ⟨names, rfl⟩ := resolve_eq_below hpath
  simp only
  rw [Action.bind_apply, Action.bind_apply, Action.query_apply, Action.query_apply, ← hfile]
  rcases hanswer : isNonEmptyFile fs₁ root (directory.child fileName) with e | answer
  · exact ⟨rfl, same, fun _ _ => rfl, fun _ _ => rfl⟩
  cases answer with
  | true => exact ⟨rfl, same, fun _ _ => rfl, fun _ _ => rfl⟩
  | false =>
    have htwins : Twins root place₁ place₂ (fileName :: names) fs₁ fs₂ :=
      ⟨⟨hwf₁, hleads₁, h.directoryStays hanswer names hpath⟩,
        ⟨hwf₂, hleads₂, h₂.directoryStays (hfile ▸ hanswer) names (hdir ▸ hpath)⟩, same⟩
    have htogether := makeLinkIn_parallel root place₁ place₂ names fs₁ fs₂ htwins
    simp only [child_below]
    exact ⟨htogether.outcome, htogether.twins.same, htogether.left.outside,
      htogether.right.outside⟩

/-- Where a directory is found, nothing outside the root is changed only if it is there or below. -/
theorem Lands.sameOutside_iff {dir : Place} (h : Lands fs₁ root dir)
    (hleads : fs₁.LeadsTo root place₁) :
    SameOutside place₁ fs₁ (ensure root fs₁).2 ↔ place₁ <:+ dir := by
  rw [h.ensure_eq hleads]
  constructor
  · intro hout
    refine Classical.byContradiction fun hdir => ?_
    have hlink := hout (fileName :: dir) (fun hq => hdir ?_)
    · rw [get?_insert, if_pos rfl, h.free] at hlink
      cases hlink
    · exact (List.suffix_cons_iff.1 hq.1).resolve_left hq.2.symm
  · intro hdir q hq
    rw [get?_insert, if_neg]
    rintro rfl
    exact hq (strictly_below hdir)

/-- Where the lookups stay below the root, making sure that the image has name servers changes
nothing outside, and it ends as on any other host that holds the same tree below the root, and
leaves the same tree. Where they land in a directory, the link is made in it, also outside the
root. -/
theorem ensure_confined (hwf₁ : fs₁.WellFormed) (hleads₁ : fs₁.LeadsTo root place₁) :
    (Contained fs₁ root place₁ → ∀ (fs₂ : FileSystem) (place₂ : Place), fs₂.WellFormed →
      fs₂.LeadsTo root place₂ → SameTree place₁ fs₁ place₂ fs₂ → (place₁ = [] → place₂ = []) →
      Confined root place₁ fs₁ place₂ fs₂) ∧
    ∀ dir, Lands fs₁ root dir → (ensure root fs₁).1 = .ok true ∧
      (SameOutside place₁ fs₁ (ensure root fs₁).2 ↔ place₁ <:+ dir) := by
  constructor
  · intro h fs₂ place₂ hwf₂ hleads₂ same htop
    exact h.confined hwf₁ hwf₂ hleads₁ hleads₂ same htop
  · intro dir h
    exact ⟨by rw [h.ensure_eq hleads₁], h.sameOutside_iff hleads₁⟩

/-- A link in the image that leads to a directory of one host alone is not followed there. A link
behind a missing name is, and the name servers end up in a directory outside the image. -/
theorem ensure_confined_hosts :
    (linkedHost.WellFormed ∧ linkedHost.LeadsTo imageRoot ["root", "work"] ∧
      Contained linkedHost imageRoot ["root", "work"] ∧
      busyHost.WellFormed ∧ busyHost.LeadsTo imageRoot ["root", "work"] ∧
      SameTree ["root", "work"] linkedHost ["root", "work"] busyHost ∧
      Confined imageRoot ["root", "work"] linkedHost ["root", "work"] busyHost) ∧
    escapingHost.WellFormed ∧ escapingHost.LeadsTo imageRoot ["root", "work"] ∧
      Lands escapingHost imageRoot ["host", "work"] ∧
      (ensure imageRoot escapingHost).1 = .ok true ∧
      ¬ SameOutside ["root", "work"] escapingHost (ensure imageRoot escapingHost).2 := by
  have hleads : linkedHost.LeadsTo imageRoot ["root", "work"] := ⟨0o755, by decide +kernel⟩
  have hbusy : busyHost.WellFormed := wellFormed_linkedHost.insert 0o755 (by decide) (by decide)
  have hleadsBusy : busyHost.LeadsTo imageRoot ["root", "work"] := ⟨0o755, by decide +kernel⟩
  have same : SameTree ["root", "work"] linkedHost ["root", "work"] busyHost := by
    intro p
    rw [busyHost, get?_insert, if_neg]
    intro h
    have := congrArg List.length h
    simp at this
  have hleadsOut : escapingHost.LeadsTo imageRoot ["root", "work"] := ⟨0o755, by decide +kernel⟩
  have hout := (ensure_confined wellFormed_escapingHost hleadsOut).2 _ lands_escapingHost
  refine ⟨⟨wellFormed_linkedHost, hleads, contained_linkedHost, hbusy, hleadsBusy, same,
    (ensure_confined wellFormed_linkedHost hleads).1 contained_linkedHost _ _ hbusy hleadsBusy same
      (by simp)⟩, wellFormed_escapingHost, hleadsOut, lands_escapingHost, hout.1, ?_⟩
  rw [hout.2]
  decide

end Contained

end GuestImage.NameResolution
