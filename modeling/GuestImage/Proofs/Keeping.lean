import GuestImage.Proofs.Retracing

/-!
# Name servers that are kept

The name servers of an image are kept where the path of their file resolves to a file that is not
empty (`ensure_eq_false_iff`). That is so where a guest finds such a file there. But the resolution
goes on where the guest goes no further (`FileSystem.Astray`): past what is no directory, if the
next step stays or goes up, and past a missing name, if a step up comes later. It may then come to a
file that the guest does not find, so what is kept is what the guest finds only where the guest is
not left behind (`ensure_keeps_iff`).
-/

namespace GuestImage

open FileSystem
open NameResolution (below)

namespace FileSystem

/-- A guest goes no further here, and the resolution of a path goes on. -/
inductive Astray (fs : FileSystem) : Standing → Prop
  | noDirectory {links slashed dir step rest} (staying : step = .here ∨ step = .up)
    (refused : ¬ fs.Searchable dir) : Astray fs ⟨links, slashed, dir, step :: rest⟩
  | slashed {links dir e} (held : fs.get? dir = some e) (file : e.isDirectory = false) :
    Astray fs ⟨links, true, dir, []⟩
  | missing {links slashed dir n rest} (absent : fs.get? (n :: dir) = none) (up : .up ∈ rest) :
    Astray fs ⟨links, slashed, dir, .name n :: rest⟩
  | nowhere {links slashed dir n rest target} (held : fs.get? (n :: dir) = some (.link target))
    (empty : (Route.ofText target).isEmpty = true) :
    Astray fs ⟨links, slashed, dir, .name n :: rest⟩

/-- A guest that follows a route is left behind by the resolution. -/
def Strays (fs : FileSystem) (top : Place) (r : Route) : Prop :=
  ∃ y, Relation.ReflTransGen (Advances fs top .object) (r.start top) y ∧ fs.Astray y

/-- A guest that follows a route finds a file that is not empty. -/
def FindsFile (fs : FileSystem) (top : Place) (r : Route) : Prop :=
  ∃ t e, fs.lookup top top r .object = .ok t ∧ t.held = .ok e ∧ e.isNonEmptyFile = true

section Astray

variable {fs : FileSystem} {top : Place} {goal : Goal} {x y : Standing}

theorem Astray.not_advances (h : fs.Astray x) : ¬ Advances fs top goal x y := by
  intro hstep
  cases h with
  | noDirectory staying refused =>
    cases hstep with
    | here search => exact refused search
    | up search => exact refused search
    | name => simp at staying
    | link => simp at staying
  | slashed => cases hstep
  | missing absent =>
    cases hstep with
    | name _ _ held => rw [absent] at held; cases held
    | link _ _ held => rw [absent] at held; cases held
  | nowhere held empty =>
    cases hstep with
    | name _ _ held' noLink => exact absurd (Option.some.inj (held'.symm.trans held)) (noLink _)
    | link _ _ held' _ leads =>
      obtain rfl := Entry.link.inj (Option.some.inj (held.symm.trans held'))
      rw [empty] at leads
      cases leads

/-- A guest that has come to something is not left behind. -/
theorem not_strays_of_way {r : Route} {links : Nat} {slashed : Bool} {place : Place} {e : Entry}
    (hway : Relation.ReflTransGen (Advances fs top .object) (r.start top)
      ⟨links, slashed, place, []⟩)
    (held : (⟨place, fs.get? place, slashed⟩ : Target).held = .ok e) : ¬ fs.Strays top r := by
  rintro ⟨z, hz, hastray⟩
  rcases eq_or_advances_of_way hway hz with rfl | ⟨w, hw⟩
  · cases hastray with
    | slashed held' file => simp [Target.held, held', file] at held
  · exact hastray.not_advances hw

end Astray

end FileSystem

namespace NameResolution

/-- The file of the name servers, as a guest asks for it. -/
def fileRoute : Route := Route.ofText ("/" ++ (directory.child fileName).text)

theorem fileRoute_eq : fileRoute = ⟨true, [.name "etc", .name fileName], false⟩ := by decide

section Keeping

variable {fs : FileSystem} {root relative p : Path} {place : Place} {names : List String}
  {n : String} {e : Entry}

theorem isNonEmptyFile_eq_true_iff : isNonEmptyFile fs root relative = .ok true ↔
    ∃ p e, resolve fs root relative = .ok p ∧ fs.entryAt p .entry = .ok e ∧
      e.isNonEmptyFile = true := by
  unfold isNonEmptyFile
  constructor
  · intro h
    split at h
    · rename_i e he
      rcases hpath : resolve fs root relative with _ | p
      · rw [hpath] at he
        cases he
      · rw [hpath] at he
        exact ⟨p, e, rfl, he, Except.ok.inj h⟩
    · split at h
      · cases h
      · split_ifs at h
        cases h
      · cases h
  · rintro ⟨p, e, hpath, he, hfile⟩
    simp only [hpath, bind, Except.bind, he, hfile]

/-- Where the path of a name leads to no file that is not empty, the name is not that of such a file
in what the path of its directory resolves to. -/
theorem isNonEmptyFile_of_child (hpath : resolve fs root relative = .ok p)
    (hanswer : isNonEmptyFile fs root (relative.child n) = .ok false)
    (held : fs.entryAt (p.child n) .entry = .ok e) : e.isNonEmptyFile = false := by
  rcases resolve_child_cases fs root relative n with
    ⟨links, lost, names, hok, hway⟩ | ⟨hclimbs, -⟩ | ⟨e, -, herror, -⟩
  · obtain rfl := Except.ok.inj (hpath.symm.trans hok)
    rw [child_below] at held
    have hdone : Follows fs root ⟨links, lost, names, [.name n]⟩ ⟨links, lost, n :: names, []⟩ →
        e.isNonEmptyFile = false := by
      intro hstep
      have hfile : resolve fs root (relative.child n) = .ok (below root (n :: names)) := by
        rw [resolve_eq_outcomeFrom, outcome_eq_iff]
        exact ⟨_, hway.tail hstep, .done⟩
      simp only [isNonEmptyFile, hfile, bind, Except.bind, held] at hanswer
      exact Except.ok.inj hanswer
    cases lost with
    | true => exact hdone .spelled
    | false =>
      cases e with
      | directory => rfl
      | file => exact hdone (.name held (by simp))
      | link => rfl
  · rw [resolve_eq_outside_iff.2 hclimbs] at hpath
    cases hpath
  · rw [herror] at hpath
    cases hpath

theorem putLink_ne_false (file : Path) : (putLink file fs).1 ≠ .ok false := by
  intro h
  unfold putLink at h
  rw [Action.bind_apply, Action.get_apply] at h
  simp only at h
  split at h
  · obtain ⟨fs₁, -, hrest⟩ := eq_of_change_bind_ok h
    rw [hrest] at h
    obtain ⟨fs₂, -, hrest⟩ := eq_of_change_bind_ok h
    rw [hrest] at h
    cases h
  · obtain ⟨fs₂, -, hrest⟩ := eq_of_change_bind_ok h
    rw [hrest] at h
    cases h

/-- What is made sure of is decided by the two resolutions, of the directory and of the file. -/
theorem ensure_apply (root : Path) (fs : FileSystem) : ensure root fs =
    match resolve fs root directory with
    | .error e => (.error e, fs)
    | .ok p =>
      match isNonEmptyFile fs root (directory.child fileName) with
      | .error e => (.error e, fs)
      | .ok true => (.ok false, fs)
      | .ok false =>
        (do FileAction.makeDirectories p directoryMode; putLink (p.child fileName)) fs := by
  unfold ensure
  rw [Action.bind_apply, Action.query_apply]
  rcases resolve fs root directory with e | p
  · rfl
  simp only
  rw [Action.bind_apply, Action.query_apply]
  rcases isNonEmptyFile fs root (directory.child fileName) with e | _ | _ <;> rfl

/-- The name servers are kept where the path of their file resolves to a file that is not empty. -/
theorem ensure_eq_false_iff : (ensure root fs).1 = .ok false ↔
    ∃ p e, resolve fs root (directory.child fileName) = .ok p ∧ fs.entryAt p .entry = .ok e ∧
      e.isNonEmptyFile = true := by
  rw [← isNonEmptyFile_eq_true_iff, ensure_apply]
  -- the path of the file does not resolve where that of its directory does not
  have hfails : ∀ e, resolve fs root (directory.child fileName) = .error e →
      isNonEmptyFile fs root (directory.child fileName) ≠ .ok true := by
    intro e he hfile
    obtain ⟨p, -, hp, -⟩ := isNonEmptyFile_eq_true_iff.1 hfile
    rw [he] at hp
    cases hp
  rcases resolve_child_cases fs root directory fileName with
    ⟨-, -, names, hpath, -⟩ | ⟨hclimbs, hclimbs'⟩ | ⟨e, -, herror, herror'⟩
  · rw [hpath]
    rcases isNonEmptyFile fs root (directory.child fileName) with e | _ | _
    · simp
    · simp only [Except.ok.injEq, Bool.false_eq_true, iff_false]
      rw [Action.bind_apply]
      rcases FileAction.makeDirectories (below root names) directoryMode fs with ⟨e | _, fs₁⟩
      · exact nofun
      · exact putLink_ne_false _
    · simp
  · rw [resolve_eq_outside_iff.2 hclimbs]
    exact iff_of_false nofun (hfails _ (resolve_eq_outside_iff.2 hclimbs'))
  · rw [herror]
    exact iff_of_false nofun (hfails e herror')

/-- Nothing is found below a name that is missing. -/
theorem not_namesDirectory_of_absent {dir : Place} (hdir : fs.NamesDirectory (below root names) dir)
    (absent : fs.get? (n :: dir) = none) (more : List String) :
    ∀ inner, ¬ fs.NamesDirectory (below root (more ++ n :: names)) inner := by
  induction more with
  | nil =>
    intro inner h
    rw [List.nil_append, ← child_below] at h
    obtain ⟨dir', e, hdir', held⟩ := h.of_child
    obtain rfl := hdir.eq hdir'
    rw [absent] at held
    cases held
  | cons m more ih =>
    intro inner h
    rw [List.cons_append, ← child_below] at h
    obtain ⟨dir', -, hdir', -⟩ := h.of_child
    exact ih dir' hdir'

theorem entryAt_of_absent {dir : Place} (hdir : fs.NamesDirectory (below root names) dir)
    (absent : fs.get? (n :: dir) = none) (more : List String) :
    fs.entryAt (below root (more ++ n :: names)) .entry ≠ .ok e := by
  intro h
  cases more with
  | nil =>
    rw [List.nil_append, ← child_below] at h
    obtain ⟨dir', hdir', -, held⟩ := exists_of_entryAt h
    obtain rfl := hdir.eq hdir'
    rw [absent] at held
    cases held
  | cons m more =>
    rw [List.cons_append, ← child_below] at h
    obtain ⟨dir', hdir', -⟩ := exists_of_entryAt h
    exact not_namesDirectory_of_absent hdir absent more dir' hdir'

theorem entryAt_of_trodden_error {o : Obstacle} (hroot : fs.NamesDirectory root place)
    (h : Trodden fs root place names) (hask : (below root (n :: names)).Askable)
    (ho : fs.comesTo [] .entry ⟨0, false, names ++ place, [.name n]⟩ = .error o) :
    fs.entryAt (below root (n :: names)) .entry =
      .error (o.failure [(below root (n :: names)).text]) := by
  rw [entryAt_of_trodden hroot h hask, ho]
  rfl

/-- Where the resolution has come to an end, the file that it has come to is where the guest is. -/
theorem get?_of_trodden (hroot : fs.NamesDirectory root place) (h : Trodden fs root place names)
    (he : fs.entryAt (below root names) .entry = .ok e) (hfile : e.isNonEmptyFile = true) :
    fs.get? (names ++ place) = some e := by
  cases h with
  | start =>
    rw [below_nil] at he
    rw [hroot.isNonEmptyFile_eq he] at hfile
    cases hfile
  | further before search short held noLink askable =>
    rw [entryAt_of_trodden_held hroot before askable search short held] at he
    rw [held, Except.ok.inj he]

/-- And a file where the guest is is what the resolution has come to. -/
theorem entryAt_of_trodden_file (hroot : fs.NamesDirectory root place)
    (h : Trodden fs root place names) (held : fs.get? (names ++ place) = some e)
    (hfile : e.isNonEmptyFile = true) : fs.entryAt (below root names) .entry = .ok e := by
  cases h with
  | start =>
    obtain ⟨mode, hmode⟩ := hroot.held
    obtain rfl := Option.some.inj (held.symm.trans hmode)
    cases hfile
  | further before search short _ _ askable =>
    exact entryAt_of_trodden_held hroot before askable search short held

/-- A resolution comes to nothing by way of a name in what may not be searched. -/
theorem outcome_ne_ok_of_not_searchable {links : Nat} {rest : List Step}
    (hroot : fs.NamesDirectory root place) (h : Trodden fs root place names)
    (hask : (below root (n :: names)).Askable) (refused : ¬ fs.Searchable (names ++ place)) :
    outcomeFrom fs root relative ⟨links, false, names, .name n :: rest⟩ ≠ .ok p := by
  obtain ⟨old, hold⟩ := h.exists_held hroot
  have hentry := entryAt_of_trodden_error hroot h hask (comesTo_of_not_searchable refused)
  have hpresent : ∀ files, ((obstacleAt (some old)).failure files).isMissing = false := by
    intro files
    cases old <;> rfl
  rw [hold] at hentry
  rw [(Halts.blocked hentry (hpresent _)).outcome_eq]
  exact nofun

/-- A guest that goes no further at a name is left behind by a resolution that comes to
something. -/
theorem astray_of_name {links : Nat} {slashed : Bool} {rest : List Step}
    (hroot : fs.NamesDirectory root place) (h : Trodden fs root place names)
    (hask : (below root (n :: names)).Askable) (search : fs.Searchable (names ++ place))
    (hstuck : ∀ z, ¬ Advances fs place .object ⟨links, slashed, names ++ place, .name n :: rest⟩ z)
    (hp : outcomeFrom fs root relative
      ⟨links, false, names, .name n :: rest.filter (· ≠ .here)⟩ = .ok p)
    (he : fs.entryAt p .entry = .ok e) :
    fs.Astray ⟨links, slashed, names ++ place, .name n :: rest⟩ := by
  by_cases hlong : maxNameSize < n.utf8ByteSize
  · have hcomes : fs.comesTo [] .entry ⟨0, false, names ++ place, [.name n]⟩ =
        .error .nameTooLong := by
      rw [comesTo_name search, if_neg (by simp), if_pos hlong]
    rw [(Halts.blocked (entryAt_of_trodden_error hroot h hask hcomes) rfl).outcome_eq] at hp
    cases hp
  have admits : Admits .object slashed n rest := ⟨by simp, hlong⟩
  rcases held : fs.get? (n :: (names ++ place)) with _ | old
  · by_cases hup : .up ∈ rest
    · exact .missing held hup
    -- the rest is kept as it is spelled, and nothing is there
    exfalso
    have hentry : fs.entryAt (below root (n :: names)) .entry =
        .error (Obstacle.missing.failure [(below root (n :: names)).text]) := by
      rw [entryAt_of_trodden hroot h hask, comesTo_child search hlong, held]
      rfl
    have hlost : Follows fs root ⟨links, false, names, .name n :: rest.filter (· ≠ .here)⟩ _ :=
      .missing hentry rfl
    rw [hlost.outcome_eq, outcomeFrom, resolveSteps_spelled hup] at hp
    obtain rfl := Except.ok.inj hp
    exact entryAt_of_absent (namesDirectory_of_trodden hroot h search) held _ he
  cases old with
  | directory => exact absurd (.name search admits held (by simp)) (hstuck _)
  | file => exact absurd (.name search admits held (by simp)) (hstuck _)
  | link target =>
    by_cases hempty : (Route.ofText target).isEmpty = true
    · exact .nowhere held hempty
    cases links with
    | zero =>
      have hlink := entryAt_of_trodden_held hroot h hask search hlong held
      rw [(Halts.tooManyLinks hlink).outcome_eq] at hp
      cases hp
    | succ links =>
      exact absurd (.link search admits held rfl (by simpa using hempty)) (hstuck _)

/-- Where a guest goes no further, it is left behind by a resolution that comes to a file that is
not empty, or it has found the file. -/
theorem astray_or_found {links : Nat} {slashed : Bool} {steps : List Step}
    (hroot : fs.NamesDirectory root place) (h : Trodden fs root place names)
    (hstuck : ∀ z, ¬ Advances fs place .object ⟨links, slashed, names ++ place, steps⟩ z)
    (hask : ∀ n rest, steps = .name n :: rest → (below root (n :: names)).Askable)
    (hp : outcomeFrom fs root relative ⟨links, false, names, steps.filter (· ≠ .here)⟩ = .ok p)
    (he : fs.entryAt p .entry = .ok e) (hfile : e.isNonEmptyFile = true) :
    fs.Astray ⟨links, slashed, names ++ place, steps⟩ ∨
      steps = [] ∧ slashed = false ∧ fs.get? (names ++ place) = some e := by
  rcases steps with _ | ⟨step, rest⟩
  · rw [List.filter_nil, Halts.done.outcome_eq] at hp
    obtain rfl := Except.ok.inj hp
    have held := get?_of_trodden hroot h he hfile
    cases slashed with
    | false => exact .inr ⟨rfl, rfl, held⟩
    | true =>
      refine .inl (.slashed held ?_)
      cases e with
      | directory => cases hfile
      | file => rfl
      | link => rfl
  · left
    by_cases search : fs.Searchable (names ++ place)
    · cases step with
      | here => exact absurd (.here search) (hstuck _)
      | up => exact absurd (.up search) (hstuck _)
      | name n =>
        rw [List.filter_cons_of_pos (by simp)] at hp
        exact astray_of_name hroot h (hask n rest rfl) search hstuck hp he
    · cases step with
      | here => exact .noDirectory (.inl rfl) search
      | up => exact .noDirectory (.inr rfl) search
      | name n =>
        rw [List.filter_cons_of_pos (by simp)] at hp
        exact absurd hp (outcome_ne_ok_of_not_searchable hroot h (hask n rest rfl) search)

/-- As long as a guest does not step up from the root, and the host can be asked for what it looks
at, the name servers that are kept are those that the guest finds, unless it is left behind. -/
theorem ensure_keeps_iff (hroot : fs.NamesDirectory root place)
    (hin : ¬ fs.Overshoots place .object (fileRoute.start place))
    (hask : ∀ names, fs.LooksAt place .object (fileRoute.start place) (names ++ place) →
      (below root names).Askable) :
    fs.FindsFile place fileRoute ↔
      (ensure root fs).1 = .ok false ∧ ¬ fs.Strays place fileRoute := by
  have hroute : fileRoute = ⟨true, (directory.child fileName).steps, false⟩ := fileRoute_eq
  have hlookup : fs.lookup place place fileRoute .object =
      fs.comesTo place .object (fileRoute.start place) := by
    rw [hroute]
    rfl
  have hresolve : resolve fs root (directory.child fileName) =
      outcomeFrom fs root (directory.child fileName)
        ⟨maxLinks, false, [], fileRoute.steps.filter (· ≠ .here)⟩ := by
    rw [hroute, resolve_eq_unstaying]
  constructor
  · rintro ⟨⟨q, entry, slashed⟩, e, ht, held, hfile⟩
    rw [hlookup] at ht
    obtain ⟨y, hway, harr⟩ := comesTo_eq_ok_iff.1 ht
    obtain rfl : entry = some e := entry_of_held held
    rw [harr.eq_of_held rfl fun target hlink => by rw [hlink] at hfile; cases hfile] at hway
    obtain ⟨names, hplace, htrodden, hfollows⟩ := exists_follows_of_way hroot hin hask hway
    obtain rfl : q = names ++ place := hplace
    have hget : fs.get? (names ++ place) = some e := harr.entry_eq.symm
    refine ⟨ensure_eq_false_iff.2 ⟨below root names, e, ?_, ?_, hfile⟩, ?_⟩
    · rw [hresolve, outcome_eq_of_way hfollows]
      exact Halts.done.outcome_eq
    · exact entryAt_of_trodden_file hroot htrodden hget hfile
    · exact not_strays_of_way hway (hget ▸ held)
  · rintro ⟨hkept, hstays⟩
    obtain ⟨p, e, hp, he, hfile⟩ := ensure_eq_false_iff.1 hkept
    obtain ⟨y, hway, hstuck⟩ := exists_stuck fs place .object maxLinks fileRoute.steps
      fileRoute.slashed place
    obtain ⟨names, hdir, htrodden, hfollows⟩ := exists_follows_of_way hroot hin hask hway
    obtain ⟨links, slashed, dir, steps⟩ := y
    obtain rfl : dir = names ++ place := hdir
    rw [hresolve, outcome_eq_of_way hfollows] at hp
    rcases astray_or_found hroot htrodden hstuck (fun n rest hsteps => hask (n :: names)
      ⟨links, slashed, _, n, rest, rfl, hsteps ▸ hway⟩) hp he hfile with hastray | ⟨rfl, rfl, held⟩
    · exact absurd ⟨_, hway, hastray⟩ hstays
    · refine ⟨⟨names ++ place, fs.get? (names ++ place), false⟩, e, ?_, ?_, hfile⟩
      · rw [hlookup]
        exact comesTo_eq_ok_iff.2 ⟨_, hway, .done⟩
      · rw [held]
        rfl

end Keeping

section Hosts

/-- A file with a name server. -/
def serverFile : Entry := .file 0o644 ⟨"nameserver 10.0.0.1\n".toUTF8.toList, 0⟩

/-- A host with an image that has name servers, in a file beside the link that is to lead to it. -/
def servedHost (target : String) : FileSystem :=
  ((emptyHost.insert ["etc", "root", "work"] (.directory 0o755)).insert
    ["servers", "etc", "root", "work"] serverFile).insert [fileName, "etc", "root", "work"]
    (.link target)

/-- A guest goes to the link in that image. -/
theorem advances_servedHost (target : String) :
    Advances (servedHost target) ["root", "work"] .object (fileRoute.start ["root", "work"])
      ⟨40, false, ["etc", "root", "work"], [.name fileName]⟩ := by
  rw [fileRoute_eq]
  exact .name ⟨0o755, rfl, by decide⟩ ⟨by simp, by decide⟩ (e := .directory 0o755) rfl (by simp)

theorem searchable_servedHost (target : String) :
    (servedHost target).Searchable ["etc", "root", "work"] :=
  ⟨0o755, rfl, by decide⟩

theorem nextAskable_servedHost :
    NextAskable imageRoot ["root", "work"] (fileRoute.start ["root", "work"]) := by
  rw [fileRoute_eq]
  exact nextAskable_name [] (by decide +kernel)

theorem along_servedHost_kept :
    (servedHost "servers").Along ["root", "work"] .object (fileRoute.start ["root", "work"])
      fun y => (∀ rest, y.steps ≠ .up :: rest) ∧ NextAskable imageRoot ["root", "work"] y := by
  have hlink : (servedHost "servers").get? [fileName, "etc", "root", "work"] =
      some (.link "servers") := rfl
  have hfollowed : Advances (servedHost "servers") ["root", "work"] .object
      ⟨40, false, ["etc", "root", "work"], [.name fileName]⟩
      ⟨39, false, ["etc", "root", "work"], [.name "servers"]⟩ :=
    .link (searchable_servedHost _) ⟨by simp, by decide⟩ hlink rfl (by decide)
  have hfile : Advances (servedHost "servers") ["root", "work"] .object
      ⟨39, false, ["etc", "root", "work"], [.name "servers"]⟩
      ⟨39, false, ["servers", "etc", "root", "work"], []⟩ :=
    .name (searchable_servedHost _) ⟨by simp, by decide⟩ (e := serverFile) rfl
      (by simp [serverFile])
  exact .head (advances_servedHost _) (.head hfollowed (.head hfile
    (along_done ⟨fun _ => nofun, nofun⟩)
    ⟨fun _ => nofun, nextAskable_name ["etc"] (by decide +kernel)⟩)
    ⟨fun _ => nofun, nextAskable_name ["etc"] (by decide +kernel)⟩)
    ⟨by simp [fileRoute_eq, Route.start], nextAskable_servedHost⟩

theorem advances_servedHost_lost : Advances (servedHost "gone/../servers") ["root", "work"] .object
    ⟨40, false, ["etc", "root", "work"], [.name fileName]⟩
    ⟨39, false, ["etc", "root", "work"], [.name "gone", .up, .name "servers"]⟩ := by
  have hgone : (servedHost "gone/../servers").get? [fileName, "etc", "root", "work"] =
      some (.link "gone/../servers") := rfl
  exact .link (searchable_servedHost _) ⟨by simp, by decide⟩ hgone rfl (by decide)

theorem astray_servedHost : (servedHost "gone/../servers").Astray
    ⟨39, false, ["etc", "root", "work"], [.name "gone", .up, .name "servers"]⟩ :=
  .missing rfl (by simp)

theorem along_servedHost_lost :
    (servedHost "gone/../servers").Along ["root", "work"] .object
      (fileRoute.start ["root", "work"]) fun y =>
        (∀ rest, y.steps ≠ .up :: rest) ∧ NextAskable imageRoot ["root", "work"] y :=
  .head (advances_servedHost _) (.head advances_servedHost_lost
    (along_stuck (fun _ => astray_servedHost.not_advances)
      ⟨fun _ => nofun, nextAskable_name ["etc"] (by decide +kernel)⟩)
    ⟨fun _ => nofun, nextAskable_name ["etc"] (by decide +kernel)⟩)
    ⟨by simp [fileRoute_eq, Route.start], nextAskable_servedHost⟩

/-- A link to the file is kept, and a guest finds the file. It is also kept where it leads to the
file by way of a missing directory, and then the guest finds no file. -/
theorem ensure_keeps_hosts :
    ((servedHost "servers").NamesDirectory imageRoot ["root", "work"] ∧
      ¬ (servedHost "servers").Overshoots ["root", "work"] .object
        (fileRoute.start ["root", "work"]) ∧
      (∀ names, (servedHost "servers").LooksAt ["root", "work"] .object
        (fileRoute.start ["root", "work"]) (names ++ ["root", "work"]) →
          (below imageRoot names).Askable) ∧
      (servedHost "servers").FindsFile ["root", "work"] fileRoute ∧
      (ensure imageRoot (servedHost "servers")).1 = .ok false) ∧
    (servedHost "gone/../servers").NamesDirectory imageRoot ["root", "work"] ∧
      ¬ (servedHost "gone/../servers").Overshoots ["root", "work"] .object
        (fileRoute.start ["root", "work"]) ∧
      (∀ names, (servedHost "gone/../servers").LooksAt ["root", "work"] .object
        (fileRoute.start ["root", "work"]) (names ++ ["root", "work"]) →
          (below imageRoot names).Askable) ∧
      (ensure imageRoot (servedHost "gone/../servers")).1 = .ok false ∧
      (servedHost "gone/../servers").Strays ["root", "work"] fileRoute ∧
      ¬ (servedHost "gone/../servers").FindsFile ["root", "work"] fileRoute := by
  have hroot : ∀ target, (servedHost target).NamesDirectory imageRoot ["root", "work"] :=
    fun _ => ⟨0o755, false, rfl⟩
  have hkeptIn := Along.not_overshoots (along_servedHost_kept.imp fun _ h _ => h.1)
  have hkeptAsk := askable_of_along (along_servedHost_kept.imp fun _ h => h.2)
  have hstrayIn := Along.not_overshoots (along_servedHost_lost.imp fun _ h _ => h.1)
  have hstrayAsk := askable_of_along (along_servedHost_lost.imp fun _ h => h.2)
  have hfinds : (servedHost "servers").FindsFile ["root", "work"] fileRoute :=
    ⟨⟨["servers", "etc", "root", "work"], some serverFile, false⟩, serverFile, by decide +kernel,
      rfl, by decide +kernel⟩
  have hstrays : (servedHost "gone/../servers").Strays ["root", "work"] fileRoute :=
    ⟨_, .tail (.single (advances_servedHost _)) advances_servedHost_lost, astray_servedHost⟩
  refine ⟨⟨hroot _, hkeptIn, hkeptAsk, hfinds, ?_⟩, hroot _, hstrayIn, hstrayAsk, by decide +kernel,
    hstrays, fun h => ?_⟩
  · exact ((ensure_keeps_iff (hroot _) hkeptIn hkeptAsk).1 hfinds).1
  · exact ((ensure_keeps_iff (hroot _) hstrayIn hstrayAsk).1 h).2 hstrays

end Hosts

end NameResolution

end GuestImage
