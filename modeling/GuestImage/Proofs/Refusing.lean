import GuestImage.Proofs.Announcing
import GuestImage.Proofs.Replacing

/-!
# Paths that climb out of the root

Making sure of the name servers fails in a stage of its own exactly where the path of their
directory meets a step up with no name left to climb from, and then nothing is changed
(`inStage_ensure_iff`). Where only the path of their file meets one, nothing is refused: the file
counts as one that is not there, and the link that leads outside is replaced (`ensure_refuses_iff`).
-/

namespace GuestImage

open FileSystem
open NameResolution (below)

namespace NameResolution

section Refusing

variable {fs : FileSystem} {root relative p : Path} {n : String}

theorem failsWith_putLink {P : Failure → Prop} {file : Path} (h : Covers P file.text) :
    FailsWith P (putLink file) := by
  have hlink : FailsWith P (do Action.change (·.makeLink linkText file); return true) :=
    (failsWith_change fun fs => fs.fails_makeLink h fun hzero =>
      absurd hzero (by decide)).bind fun _ => failsWith_pure true
  intro fs
  unfold putLink
  rw [Action.bind_apply, Action.get_apply]
  dsimp only
  split_ifs
  · exact (failsWith_change fun fs => fs.fails_unlink h).bind (fun _ => hlink) fs
  · exact hlink fs

/-- A resolution fails in a stage exactly if it climbs out of the root. -/
theorem inStage_resolve_iff : InStage (resolve fs root relative) ↔ Climbs fs root relative := by
  rw [← resolve_eq_outside_iff]
  constructor
  · rintro ⟨f, causes, he⟩
    obtain ⟨y, -, hr⟩ := outcome_eq_iff.1 (resolve_eq_outcomeFrom.symm.trans he)
    rw [he]
    -- of the ways to end, only the step up from the root is the failure of a stage
    generalize hout : (.error ⟨.stage f, causes⟩ : Except Failure Path) = r at hr
    cases hr with
    | done => cases hout
    | climbing => rfl
    | blocked refused =>
      obtain rfl := Except.error.inj hout
      exact absurd ⟨f, causes, refused⟩ (not_inStage_entryAt fs _ .entry)
    | tooManyLinks => cases hout
  · intro h
    rw [h]
    exact ⟨_, _, rfl⟩

theorem isNonEmptyFile_of_climbs (h : Climbs fs root relative) :
    isNonEmptyFile fs root relative = .ok false := by
  unfold isNonEmptyFile
  rw [resolve_eq_outside_iff.2 h]
  rfl

theorem not_inStage_isNonEmptyFile (fs : FileSystem) (root relative : Path) :
    ¬InStage (isNonEmptyFile fs root relative) := by
  by_cases hclimbs : Climbs fs root relative
  · rw [isNonEmptyFile_of_climbs hclimbs]
    exact not_inStage_ok _
  have hplain : ¬InStage (resolve fs root relative >>= fun p => fs.entryAt p .entry) :=
    not_inStage_bind (mt inStage_resolve_iff.1 hclimbs) fun p => not_inStage_entryAt fs p .entry
  unfold isNonEmptyFile
  rcases hentry : resolve fs root relative >>= fun p => fs.entryAt p .entry with ⟨fault, causes⟩ | e
  · cases fault with
    | stage f => exact absurd ⟨f, causes, hentry⟩ hplain
    | refusal => exact not_inStage_ok _
    | _ => exact not_inStage_error fun _ h => nomatch h
  · exact not_inStage_ok _

/-- Making sure of the name servers fails in a stage exactly if the path of their directory climbs
out of the root. -/
theorem inStage_ensure_iff : InStage (ensure root fs).1 ↔ Climbs fs root directory := by
  rw [← inStage_resolve_iff, ensure_apply]
  rcases resolve fs root directory with e | p
  · exact inStage_error_iff
  · refine iff_of_false ?_ (not_inStage_ok p)
    have hplain := not_inStage_isNonEmptyFile fs root (directory.child fileName)
    dsimp only
    generalize isNonEmptyFile fs root (directory.child fileName) = answer at hplain
    rcases answer with e | _ | _
    · exact mt inStage_error_iff.1 hplain
    · have hcovers := covers_outOfStage
      exact plain_of_failsWith ((failsWith_makeDirectories (hcovers _) _).bind fun _ =>
        failsWith_putLink (hcovers _)) fs
    · exact not_inStage_ok _

/-- Where the path of a name climbs out of the root and that of its directory does not, the name is
that of a link. -/
theorem exists_link_of_climbs (hpath : resolve fs root relative = .ok p)
    (h : Climbs fs root (relative.child n)) :
    ∃ target, fs.entryAt (p.child n) .entry = .ok (.link target) := by
  rcases resolve_child_cases fs root relative n with
    ⟨links, lost, names, hok, hway⟩ | ⟨hclimbs, -⟩ | ⟨e, -, herror, -⟩
  · obtain rfl := Except.ok.inj (hpath.symm.trans hok)
    have hout : outcomeFrom fs root (relative.child n) ⟨links, lost, names, [.name n]⟩ =
        .error (outside (relative.child n)) := by
      rw [← outcome_eq_of_way hway, ← resolve_eq_outcomeFrom]
      exact resolve_eq_outside_iff.2 h
    -- a name that is no link is the last one of the way
    have hlast : ∀ y, Follows fs root ⟨links, lost, names, [.name n]⟩ y → y.steps ≠ [] := by
      rintro ⟨links', lost', names', _⟩ hstep rfl
      rw [hstep.outcome_eq, Halts.done.outcome_eq] at hout
      cases hout
    rw [child_below]
    cases lost with
    | true => exact absurd rfl (hlast _ .spelled)
    | false =>
      rcases hentry : fs.entryAt (below root (n :: names)) .entry with e | e
      · rcases he : e.isMissing
        · rw [(Halts.blocked hentry he).outcome_eq] at hout
          obtain rfl := Except.error.inj hout
          exact absurd ⟨_, _, congrArg _ rfl⟩ (hentry ▸ not_inStage_entryAt fs _ .entry)
        · exact absurd rfl (hlast _ (.missing hentry he))
      · cases e with
        | directory => exact absurd rfl (hlast _ (.name hentry (by simp)))
        | file => exact absurd rfl (hlast _ (.name hentry (by simp)))
        | link target => exact ⟨target, rfl⟩
  · rw [resolve_eq_outside_iff.2 hclimbs] at hpath
    cases hpath
  · rw [herror] at hpath
    cases hpath

/-- Making sure of the name servers is refused exactly if the path of their directory climbs out of
the root, and then nothing is changed. If only the path of their file does, the link there is
replaced. -/
theorem ensure_refuses_iff :
    (InStage (ensure root fs).1 ↔ Climbs fs root directory) ∧
      (Climbs fs root directory → ensure root fs = (.error (outside directory), fs)) ∧
      (Climbs fs root (directory.child fileName) → ¬ Climbs fs root directory →
        ∃ p dir target, resolve fs root directory = .ok p ∧ fs.NamesDirectory p dir ∧
          fs.get? (fileName :: dir) = some (.link target) ∧
          (fs.permits dir .write = true → ¬ Undermined fs root p dir →
            ensure root fs = (.ok true, fs.insert (fileName :: dir) (.link linkText)))) := by
  refine ⟨inStage_ensure_iff, fun h => ?_, fun hfile hdir => ?_⟩
  · rw [ensure_apply, resolve_eq_outside_iff.2 h]
  · have hanswer := isNonEmptyFile_of_climbs hfile
    rcases resolve_child_cases fs root directory fileName with
      ⟨-, -, names, hpath, -⟩ | ⟨h, -⟩ | ⟨e, he, -, herror⟩
    · obtain ⟨target, held⟩ := exists_link_of_climbs hpath hfile
      obtain ⟨dir, hnames, -, hget⟩ := exists_of_entryAt held
      refine ⟨_, dir, target, hpath, hnames, hget, fun writable hsound => ?_⟩
      have hlooks : ¬ fs.LooksAt [] .object (fs.standing (below root names)) (fileName :: dir) :=
        fun h => hsound ⟨hanswer, hpath, hnames, ⟨_, hget, rfl⟩, h, askable_of_entryAt held,
          writable⟩
      rw [ensure_of_held hpath hanswer held]
      exact (putLink_eq_insert hnames held rfl writable hlooks).2
    · exact absurd h hdir
    · rw [resolve_eq_outside_iff.2 hfile] at herror
      obtain rfl := Except.error.inj herror
      exact absurd rfl (he _)

end Refusing

section Hosts

/-- A host with an image whose directory for the link is beside it. -/
def besideHost : FileSystem :=
  emptyHost.insert ["etc", "root", "work"] (.link "../host")

/-- A directory outside is refused, and a file outside is not: its link is replaced. -/
theorem ensure_refuses_hosts :
    (Climbs besideHost imageRoot directory ∧
      ensure imageRoot besideHost = (.error (outside directory), besideHost)) ∧
    Climbs (servedHost "../../host") imageRoot (directory.child fileName) ∧
      ¬ Climbs (servedHost "../../host") imageRoot directory ∧
      ¬ InStage (ensure imageRoot (servedHost "../../host")).1 ∧
      ensure imageRoot (servedHost "../../host") = (.ok true,
        (servedHost "../../host").insert [fileName, "etc", "root", "work"] (.link linkText)) := by
  have hetc : Climbs besideHost imageRoot directory :=
    resolve_eq_outside_iff.1 (by decide +kernel)
  have hfile : Climbs (servedHost "../../host") imageRoot (directory.child fileName) :=
    resolve_eq_outside_iff.1 (by decide +kernel)
  have hpath : resolve (servedHost "../../host") imageRoot directory =
      .ok (below imageRoot ["etc"]) := rfl
  have hdir : ¬ Climbs (servedHost "../../host") imageRoot directory := by
    rw [← resolve_eq_outside_iff, hpath]
    exact nofun
  have hnames : (servedHost "../../host").NamesDirectory (below imageRoot ["etc"])
      ["etc", "root", "work"] := ⟨0o755, false, rfl⟩
  obtain ⟨hstage, -, hreplaced⟩ := @ensure_refuses_iff (servedHost "../../host") imageRoot
  obtain ⟨p, dir, target, hp, hnames', -, heq⟩ := hreplaced hfile hdir
  obtain rfl := Except.ok.inj (hpath.symm.trans hp)
  obtain rfl := hnames.eq hnames'
  exact ⟨⟨hetc, ensure_refuses_iff.2.1 hetc⟩, hfile, hdir, fun h => hdir (hstage.1 h),
    heq rfl (not_undermined_servedHost _ _ _)⟩

end Hosts

end NameResolution

end GuestImage
