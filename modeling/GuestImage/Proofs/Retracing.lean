import GuestImage.Proofs.Directories
import GuestImage.Proofs.Following
import Mathlib.Algebra.GroupWithZero.Nat

/-!
# Retracing a guest

The resolution of a path inside an image retraces the way of a guest step by step
(`follows_of_trodden`): the names it has come to are those of the directory the guest is in, and it
has gone through all of them (`Trodden`). So it resolves the path to where the guest comes to
something (`resolve_of_lookup`).

For this the guest must not step up from the root, which the resolution refuses
(`FileSystem.Overshoots`). And the host has to be asked for what the guest looks at
(`FileSystem.LooksAt`) by its path outside the image, which may be too long for that
(`resolve_longRoot`).
-/

namespace GuestImage

open FileSystem
open NameResolution (below LinkFree)

/-- Where one who sees a place as the top starts to follow a route. -/
def Route.start (r : Route) (top : Place) : Standing :=
  ⟨maxLinks, r.slashed, top, r.steps⟩

namespace FileSystem

/-- Something holds of every standing on the way of a lookup. -/
def Along (fs : FileSystem) (top : Place) (goal : Goal) (x : Standing) (P : Standing → Prop) :
    Prop :=
  ∀ y, Relation.ReflTransGen (Advances fs top goal) x y → P y

/-- A lookup takes a step up from the top. -/
def Overshoots (fs : FileSystem) (top : Place) (goal : Goal) (x : Standing) : Prop :=
  fs.Searchable top ∧ ∃ links slashed rest, Relation.ReflTransGen (Advances fs top goal) x
    ⟨links, slashed, top, .up :: rest⟩

/-- A lookup looks for the entry at a place. -/
def LooksAt (fs : FileSystem) (top : Place) (goal : Goal) (x : Standing) (q : Place) : Prop :=
  ∃ links slashed dir n rest, q = n :: dir ∧
    Relation.ReflTransGen (Advances fs top goal) x ⟨links, slashed, dir, .name n :: rest⟩

section Along

variable {fs : FileSystem} {top : Place} {goal : Goal} {x y : Standing} {P : Standing → Prop}

/-- A lookup that comes to the end of the steps goes on from wherever it stands before. -/
theorem eq_or_advances_of_way {links : Nat} {slashed : Bool} {dir : Place}
    (hend : Relation.ReflTransGen (Advances fs top goal) x ⟨links, slashed, dir, []⟩)
    (hy : Relation.ReflTransGen (Advances fs top goal) x y) :
    y = ⟨links, slashed, dir, []⟩ ∨ ∃ z, Advances fs top goal y z := by
  have hunique : Relator.RightUnique (Advances fs top goal) := fun _ _ _ hb hc => hb.eq hc
  rcases Relation.ReflTransGen.total_of_right_unique hunique hend hy with h | h
  · rcases h.cases_head with heq | ⟨z, hz, -⟩
    · exact .inl heq.symm
    · cases hz
  · rcases h.cases_head with heq | ⟨z, hz, -⟩
    · exact .inl heq
    · exact .inr ⟨z, hz⟩

theorem Along.head (hxy : Advances fs top goal x y) (hy : fs.Along top goal y P) (hx : P x) :
    fs.Along top goal x P := by
  intro z hz
  rcases hz.cases_head with rfl | ⟨w, hw, hwz⟩
  · exact hx
  · obtain rfl := hxy.eq hw
    exact hy z hwz

theorem Along.imp {Q : Standing → Prop} (h : fs.Along top goal x P) (hPQ : ∀ y, P y → Q y) :
    fs.Along top goal x Q :=
  fun y hy => hPQ y (h y hy)

theorem along_stuck (h : ∀ y, ¬ Advances fs top goal x y) (hx : P x) : fs.Along top goal x P := by
  intro z hz
  rcases hz.cases_head with rfl | ⟨w, hw, -⟩
  · exact hx
  · exact absurd hw (h w)

theorem along_done {links : Nat} {slashed : Bool} {dir : Place}
    (h : P ⟨links, slashed, dir, []⟩) : fs.Along top goal ⟨links, slashed, dir, []⟩ P :=
  along_stuck nofun h

theorem Along.not_overshoots
    (h : fs.Along top goal x fun y => y.dir = top → ∀ rest, y.steps ≠ .up :: rest) :
    ¬ fs.Overshoots top goal x := by
  rintro ⟨-, links, slashed, rest, hway⟩
  exact h _ hway rfl rest rfl

theorem Along.not_looksAt {q : Place}
    (h : fs.Along top goal x fun y => ∀ n rest, y.steps = .name n :: rest → n :: y.dir ≠ q) :
    ¬ fs.LooksAt top goal x q := by
  rintro ⟨links, slashed, dir, n, rest, rfl, hway⟩
  exact h _ hway n rest rfl rfl

end Along

end FileSystem

namespace NameResolution

/-- Names below a root, the last one first, that were gone through one by one: each is there and is
no link, in a directory that may be searched, and the host can be asked for it. -/
inductive Trodden (fs : FileSystem) (root : Path) (place : Place) : List String → Prop
  | start : Trodden fs root place []
  | further {n : String} {names : List String} {e : Entry} (before : Trodden fs root place names)
      (search : fs.Searchable (names ++ place)) (short : ¬ maxNameSize < n.utf8ByteSize)
      (held : fs.get? (n :: names ++ place) = some e) (noLink : ∀ target, e ≠ .link target)
      (askable : (below root (n :: names)).Askable) : Trodden fs root place (n :: names)

section Trodden

variable {fs : FileSystem} {root relative : Path} {place q : Place} {names : List String}
  {n : String} {e : Entry}

theorem Trodden.tail (h : Trodden fs root place (n :: names)) : Trodden fs root place names := by
  cases h with
  | further before => exact before

theorem Trodden.linkFree (h : Trodden fs root place names) : LinkFree fs place names := by
  induction h with
  | start => exact linkFree_nil fs place
  | further _ _ _ held noLink _ ih =>
    refine ih.cons fun target hlink => noLink target ?_
    exact Option.some.inj (held.symm.trans hlink)

theorem Trodden.exists_held (hroot : fs.NamesDirectory root place)
    (h : Trodden fs root place names) : ∃ e, fs.get? (names ++ place) = some e := by
  cases h with
  | start =>
    obtain ⟨mode, hmode⟩ := hroot.held
    exact ⟨_, hmode⟩
  | further _ _ _ held => exact ⟨_, held⟩

/-- Names that were gone through lead to where they say, from the root. -/
theorem lookup_of_trodden (hroot : fs.NamesDirectory root place) (h : Trodden fs root place names) :
    ∃ slashed, fs.lookup [] fs.workDir (below root names).route .object =
      .ok ⟨names ++ place, fs.get? (names ++ place), slashed⟩ := by
  induction h with
  | start =>
    obtain ⟨mode, slashed, hlook⟩ := hroot
    refine ⟨slashed, ?_⟩
    have hheld : fs.get? place = some (.directory mode) := get?_of_lookup hlook
    rw [below_nil, hlook, List.nil_append, hheld]
  | @further n names e before search short held noLink _ ih =>
    obtain ⟨slashed, hlook⟩ := ih
    obtain ⟨mode, hmode, -⟩ := id search
    rw [hmode] at hlook
    have hdir : fs.NamesDirectory (below root names) (names ++ place) := ⟨mode, slashed, hlook⟩
    rw [← child_below, held]
    exact ⟨false, hdir.lookup_child_object search short held noLink⟩

theorem namesDirectory_of_trodden (hroot : fs.NamesDirectory root place)
    (h : Trodden fs root place names) (search : fs.Searchable (names ++ place)) :
    fs.NamesDirectory (below root names) (names ++ place) := by
  obtain ⟨slashed, hlook⟩ := lookup_of_trodden hroot h
  obtain ⟨mode, hmode, -⟩ := search
  exact ⟨mode, slashed, hmode ▸ hlook⟩

theorem entryAt_of_not_askable {p : Path} {goal : Goal} (h : ¬ p.Askable) :
    ∃ e : Failure, fs.entryAt p goal = .error e ∧ e.isMissing = false := by
  unfold entryAt find locate locateNamed
  split_ifs with hnul hlong
  · exact ⟨_, rfl, rfl⟩
  · exact ⟨_, rfl, rfl⟩
  · exact absurd ⟨by simpa using hnul, by omega⟩ h

/-- What the host answers about the next name. -/
theorem entryAt_of_trodden (hroot : fs.NamesDirectory root place)
    (h : Trodden fs root place names) (hask : (below root (n :: names)).Askable) :
    fs.entryAt (below root (n :: names)) .entry =
      (fs.comesTo [] .entry ⟨0, false, names ++ place, [.name n]⟩ >>= Target.held).mapError
        (·.failure [(below root (n :: names)).text]) := by
  obtain ⟨slashed, hlook⟩ := lookup_of_trodden hroot h
  unfold entryAt find
  rw [locate_of_askable hask, ← child_below, FileSystem.lookup_child, hlook]
  change (fs.comesTo [] .entry ⟨0, false, names ++ place, [.name n]⟩).mapError _ >>= _ = _
  rcases fs.comesTo [] .entry ⟨0, false, names ++ place, [.name n]⟩ with o | t
  · rfl
  · rfl

theorem entryAt_of_trodden_held (hroot : fs.NamesDirectory root place)
    (h : Trodden fs root place names) (hask : (below root (n :: names)).Askable)
    (search : fs.Searchable (names ++ place)) (short : ¬ maxNameSize < n.utf8ByteSize)
    (held : fs.get? (n :: names ++ place) = some e) :
    fs.entryAt (below root (n :: names)) .entry = .ok e := by
  rw [← child_below] at hask ⊢
  exact (namesDirectory_of_trodden hroot h search).entryAt_child search short hask held

end Trodden

section Retracing

variable {fs : FileSystem} {root relative : Path} {place q : Place} {names : List String}

theorem steps_ofText (s : String) :
    (Path.ofText s).steps = (Route.ofText s).steps.filter (· ≠ .here) := rfl

/-- The resolution retraces a step of a guest. -/
theorem follows_of_trodden (hroot : fs.NamesDirectory root place) (h : Trodden fs root place names)
    {links : Nat} {slashed : Bool} {steps : List Step} {y : Standing}
    (hstep : Advances fs place .object ⟨links, slashed, names ++ place, steps⟩ y)
    (hup : ∀ rest, fs.Searchable place → names = [] → steps ≠ .up :: rest)
    (hask : ∀ n rest, steps = .name n :: rest → (below root (n :: names)).Askable) :
    ∃ names', y.dir = names' ++ place ∧ Trodden fs root place names' ∧
      Relation.ReflTransGen (Follows fs root) ⟨links, false, names, steps.filter (· ≠ .here)⟩
        ⟨y.links, false, names', y.steps.filter (· ≠ .here)⟩ := by
  cases hstep with
  | here => exact ⟨names, rfl, h, .refl⟩
  | up search =>
    cases names with
    | nil => exact absurd rfl (hup _ search rfl)
    | cons n names =>
      refine ⟨names, ?_, h.tail, .single .up⟩
      -- with a name gone through, the guest does not stand at the top
      have hdir : n :: names ++ place ≠ place := mt List.append_left_eq_self.1 (by simp)
      rw [if_neg hdir]
      rfl
  | @name _ _ _ rest n e search admits held noLink =>
    have hask := hask n rest rfl
    exact ⟨n :: names, rfl, .further h search admits.2 held noLink hask,
      .single (.name (entryAt_of_trodden_held hroot h hask search admits.2 held) noLink)⟩
  | @link _ _ _ rest n target search admits held =>
    have hlink := entryAt_of_trodden_held hroot h (hask n rest rfl) search admits.2 held
    refine ⟨if (Route.ofText target).fromTop then [] else names, ?_, ?_, .single ?_⟩
    · simp only
      split <;> rfl
    · split
      · exact .start
      · exact h
    · have hnames : (if (Route.ofText target).fromTop then [] else names) =
          if (Path.ofText target).anchor = .relative then names else [] := by
        simp only [anchor_relative_iff]
        cases (Route.ofText target).fromTop <;> rfl
      simp only [List.filter_append, hnames]
      exact .link hlink

/-- The resolution retraces the way of a guest. -/
theorem exists_follows_of_way (hroot : fs.NamesDirectory root place) {r : Route} {y : Standing}
    (hin : ¬ fs.Overshoots place .object (r.start place))
    (hask : ∀ names, fs.LooksAt place .object (r.start place) (names ++ place) →
      (below root names).Askable)
    (hway : Relation.ReflTransGen (Advances fs place .object) (r.start place) y) :
    ∃ names, y.dir = names ++ place ∧ Trodden fs root place names ∧
      Relation.ReflTransGen (Follows fs root) ⟨maxLinks, false, [], r.steps.filter (· ≠ .here)⟩
        ⟨y.links, false, names, y.steps.filter (· ≠ .here)⟩ := by
  -- the names gone through so far carry the induction: they are where the guest stands
  induction hway with
  | refl => exact ⟨[], rfl, .start, .refl⟩
  | @tail y z hbefore hstep ih =>
    obtain ⟨names, hdir, htrodden, hfollows⟩ := ih
    obtain ⟨links, slashed, dir, steps⟩ := y
    obtain rfl : dir = names ++ place := hdir
    obtain ⟨names', hdir', htrodden', hnext⟩ := follows_of_trodden hroot htrodden hstep
      (fun rest search hnil hup => hin ⟨search, links, slashed, rest, by
        subst hnil hup
        exact hbefore⟩)
      fun n rest hname => hask (n :: names) ⟨links, slashed, names ++ place, n, rest, rfl, by
        subst hname
        exact hbefore⟩
    exact ⟨names', hdir', htrodden', hfollows.trans hnext⟩

/-- A path inside the image that leads a guest to something, without a step up from the root, is
resolved to the names of what the guest comes to, and none of them is a link. -/
theorem resolve_of_lookup {slashed : Bool} {e : Entry} (hroot : fs.NamesDirectory root place)
    (h : fs.lookup place place relative.route .object = .ok ⟨q, some e, slashed⟩)
    (hin : ¬ fs.Overshoots place .object (relative.route.start place))
    (hask : ∀ names, fs.LooksAt place .object (relative.route.start place) (names ++ place) →
      (below root names).Askable) :
    ∃ names, resolve fs root relative = .ok (below root names) ∧ q = names ++ place ∧
      LinkFree fs place names := by
  have hstart : (if relative.route.fromTop then place else place) = place := by
    split <;> rfl
  rw [lookup, hstart] at h
  obtain ⟨y, hway, harr⟩ := (comesTo_eq_ok_iff (x := relative.route.start place)).1 h
  obtain ⟨names, hdir, htrodden, hfollows⟩ := exists_follows_of_way hroot hin hask hway
  have hsteps : relative.route.steps.filter (· ≠ .here) = relative.steps.filter (· ≠ .here) := by
    simp only [Path.route]
    split
    · rename_i hdot
      simp [List.isEmpty_iff.1 (Bool.and_eq_true_iff.1 hdot).2]
    · rfl
  have hend : y.steps = [] ∧ y.dir = q := by
    generalize ht : (⟨q, some e, slashed⟩ : Target) = t at harr
    cases harr with
    | done => exact ⟨rfl, (congrArg Target.place ht).symm⟩
    | absent => cases ht
    | link _ _ _ kept => cases kept
  rw [hsteps, hend.1] at hfollows
  refine ⟨names, ?_, hend.2.symm.trans hdir, htrodden.linkFree⟩
  rw [resolve_eq_unstaying, outcome_eq_iff]
  exact ⟨_, hfollows, .done⟩

/-- The resolution fails where the host cannot be asked for the next name. -/
theorem resolve_of_not_askable {links : Nat} {n : String} {rest : List Step}
    (hway : Relation.ReflTransGen (Follows fs root) (setOut relative)
      ⟨links, false, names, .name n :: rest⟩) (hask : ¬ (below root (n :: names)).Askable) :
    ∃ e, resolve fs root relative = .error e := by
  obtain ⟨e, he, hpresent⟩ := entryAt_of_not_askable hask
  refine ⟨e, ?_⟩
  rw [resolve_eq_outcomeFrom, outcome_eq_iff]
  exact ⟨_, hway, .blocked he hpresent⟩

end Retracing

section Asked

variable {fs : FileSystem} {root : Path} {place top : Place} {goal : Goal} {x : Standing}

/-- The host can be asked for the name that a guest looks at next. -/
def NextAskable (root : Path) (place : Place) (y : Standing) : Prop :=
  ∀ n rest names, y.steps = .name n :: rest → names ++ place = n :: y.dir →
    (below root names).Askable

theorem nextAskable_name {links : Nat} {slashed : Bool} {n : String} {rest : List Step}
    (names : List String) (h : (below root (n :: names)).Askable) :
    NextAskable root place ⟨links, slashed, names ++ place, .name n :: rest⟩ := by
  rintro m more names' hsteps hplace
  obtain rfl := Step.name.inj (List.cons.inj hsteps).1
  obtain rfl : names' = n :: names := (List.append_left_inj place).1 hplace
  exact h

theorem askable_of_along (h : fs.Along top goal x (NextAskable root place)) (names : List String)
    (hlooks : fs.LooksAt top goal x (names ++ place)) : (below root names).Askable := by
  obtain ⟨links, slashed, dir, n, rest, hplace, hway⟩ := hlooks
  exact h _ hway n rest names rfl hplace

end Asked

section Hosts

theorem namesDirectory_linkedHost : linkedHost.NamesDirectory imageRoot ["root", "work"] :=
  ⟨0o755, false, by decide +kernel⟩

/-- Where `/etc` is a link from the top, it is resolved to the directory that it leads a guest
to. -/
theorem resolve_of_lookup_linkedHost :
    linkedHost.NamesDirectory imageRoot ["root", "work"] ∧
      linkedHost.lookup ["root", "work"] ["root", "work"] directory.route .object =
        .ok ⟨["data", "root", "work"], some (.directory 0o755), false⟩ ∧
      ¬ linkedHost.Overshoots ["root", "work"] .object (directory.route.start ["root", "work"]) ∧
      (∀ names, linkedHost.LooksAt ["root", "work"] .object
        (directory.route.start ["root", "work"]) (names ++ ["root", "work"]) →
          (below imageRoot names).Askable) ∧
      ∃ names, resolve linkedHost imageRoot directory = .ok (below imageRoot names) ∧
        ["data", "root", "work"] = names ++ ["root", "work"] ∧
        LinkFree linkedHost ["root", "work"] names := by
  have search : linkedHost.Searchable ["root", "work"] := ⟨0o755, by decide +kernel, by decide⟩
  have hetc : linkedHost.get? ["etc", "root", "work"] = some (.link "/data") := by decide +kernel
  have hdata : linkedHost.get? ["data", "root", "work"] = some (.directory 0o755) := by
    decide +kernel
  have hlink : Advances linkedHost ["root", "work"] .object
      (directory.route.start ["root", "work"]) ⟨39, false, ["root", "work"], [.name "data"]⟩ :=
    .link search ⟨by simp, by decide⟩ hetc rfl (by decide)
  have hname : Advances linkedHost ["root", "work"] .object
      ⟨39, false, ["root", "work"], [.name "data"]⟩ ⟨39, false, ["data", "root", "work"], []⟩ :=
    .name search ⟨by simp, by decide⟩ hdata (by simp)
  have hlook : linkedHost.lookup ["root", "work"] ["root", "work"] directory.route .object =
      .ok ⟨["data", "root", "work"], some (.directory 0o755), false⟩ := by decide +kernel
  have hin := Along.not_overshoots (.head hlink (.head hname (along_done fun _ _ => nofun)
    fun _ _ => nofun) fun _ _ => nofun)
  have hnext : linkedHost.Along ["root", "work"] .object (directory.route.start ["root", "work"])
      (NextAskable imageRoot ["root", "work"]) :=
    .head hlink (.head hname (along_done nofun) (nextAskable_name [] (by decide +kernel)))
      (nextAskable_name [] (by decide +kernel))
  exact ⟨namesDirectory_linkedHost, hlook, hin, askable_of_along hnext,
    resolve_of_lookup namesDirectory_linkedHost hlook hin (askable_of_along hnext)⟩

/-- A name that is as long as a name may be. -/
def longestName : String := String.ofList (List.replicate maxNameSize 'n')

/-- The root of an image, by a way through a directory beside it that is taken over and over. -/
def windingRoot : Path :=
  ⟨.relative, (List.replicate 15 [.name longestName, .up]).flatten ++ [.name "root"]⟩

/-- A host with an image whose directory for the link is named by way of a directory with a long
name. -/
def longHost : FileSystem :=
  (((emptyHost.insert [longestName, "work"] (.directory 0o755)).insert
    [longestName, "root", "work"] (.directory 0o755)).insert ["real", "root", "work"]
    (.directory 0o755)).insert ["etc", "root", "work"] (.link (longestName ++ "/../real"))

theorem size_longestName : longestName.utf8ByteSize = maxNameSize := by decide +kernel

/-- To enter a directory and to step up from it, any number of times, leads nowhere else. -/
theorem way_windings {fs : FileSystem} {links : Nat} {slashed : Bool} {dir : Place} {n : String}
    {rest : List Step} (search : fs.Searchable dir) (inner : fs.Searchable (n :: dir))
    (short : ¬ maxNameSize < n.utf8ByteSize) (k : Nat) :
    Relation.ReflTransGen (Advances fs [] .object)
      ⟨links, slashed, dir, (List.replicate k [.name n, .up]).flatten ++ rest⟩
      ⟨links, slashed, dir, rest⟩ := by
  induction k with
  | zero => exact .refl
  | succ k ih =>
    obtain ⟨mode, hmode, -⟩ := id inner
    exact .head (.name search ⟨by simp, short⟩ hmode (by simp)) (.head (.up inner) ih)

theorem namesDirectory_windingRoot : longHost.NamesDirectory windingRoot ["root", "work"] := by
  have search : longHost.Searchable ["work"] := ⟨0o755, by decide +kernel, by decide⟩
  have inner : longHost.Searchable [longestName, "work"] :=
    ⟨0o755, by decide +kernel, by decide⟩
  have hroot : longHost.get? ["root", "work"] = some (.directory 0o755) := by decide +kernel
  have hway : Relation.ReflTransGen (Advances longHost [] .object)
      ⟨maxLinks, false, ["work"], windingRoot.route.steps⟩
      ⟨maxLinks, false, ["root", "work"], []⟩ :=
    (way_windings search inner (by rw [size_longestName]; decide) 15).tail
      (.name search ⟨by simp, by decide⟩ hroot (by simp))
  refine ⟨0o755, false, ?_⟩
  change longHost.comesTo [] .object ⟨maxLinks, false, ["work"], windingRoot.route.steps⟩ = _
  rw [comesTo_eq_of_way hway, comesTo, walkLinks_nil, hroot]

theorem splitSlash_append {cs : List Char} (h : '/' ∉ cs) (rest : List Char) :
    splitSlash (cs ++ '/' :: rest) = cs :: splitSlash rest := by
  induction cs with
  | nil => simp [splitSlash]
  | cons c cs ih =>
    simp only [List.mem_cons, not_or] at h
    simp [splitSlash, Ne.symm h.1, ih h.2]

theorem route_longTarget : Route.ofText (longestName ++ "/../real") =
    ⟨false, [.name longestName, .up, .name "real"], false⟩ := by
  have htext : (longestName ++ "/../real").toList =
      List.replicate maxNameSize 'n' ++ '/' :: "../real".toList := by
    rw [String.toList_append, longestName, String.toList_ofList]
    rfl
  have hname : Step.ofText longestName = .name longestName := by decide +kernel
  have hrest : splitSlash "../real".toList = ["..".toList, "real".toList] := by decide
  have hsteps : Step.ofPathText (longestName ++ "/../real") =
      [.name longestName, .up, .name "real"] := by
    unfold Step.ofPathText
    rw [htext, splitSlash_append (by decide), hrest]
    exact congrArg (· :: [.up, .name "real"]) hname
  unfold Route.ofText
  rw [hsteps, htext]
  decide +kernel

theorem sum_le_size_intercalate (separator : String) (l : List String) :
    (l.map String.utf8ByteSize).sum ≤ (separator.intercalate l).utf8ByteSize := by
  induction l with
  | nil => exact Nat.zero_le _
  | cons a l ih =>
    cases l with
    | nil => simp
    | cons b l =>
      rw [String.intercalate_cons_cons, String.utf8ByteSize_append, String.utf8ByteSize_append,
        List.map_cons, List.sum_cons]
      omega

/-- The host cannot be asked for a directory that the guest goes through. -/
theorem not_askable_longestName : ¬ (below windingRoot [longestName]).Askable := by
  intro h
  have hsteps : (below windingRoot [longestName]).steps.map Step.text =
      (List.replicate 15 [longestName, ".."]).flatten ++ ["root", longestName] := by rfl
  have htext : (below windingRoot [longestName]).text =
      "" ++ "/".intercalate ((below windingRoot [longestName]).steps.map Step.text) := by rfl
  have hsize := sum_le_size_intercalate "/" ((below windingRoot [longestName]).steps.map Step.text)
  have hsum : (((List.replicate 15 [longestName, ".."]).flatten ++
      ["root", longestName]).map String.utf8ByteSize).sum = 4114 := by
    have hup : "..".utf8ByteSize = 2 := by decide
    have hroot : "root".utf8ByteSize = 4 := by decide
    simp only [List.replicate, List.flatten_cons, List.flatten_nil, List.cons_append,
      List.nil_append, List.map_cons, List.map_nil, List.sum_cons, List.sum_nil,
      size_longestName, hup, hroot]
    decide
  have hlong := h.2
  rw [htext, String.utf8ByteSize_append] at hlong
  rw [hsteps, hsum] at hsize
  rw [hsteps] at hlong
  simp only [maxPathSize] at hlong
  omega

theorem searchable_longHost : longHost.Searchable ["root", "work"] :=
  ⟨0o755, by decide +kernel, by decide⟩

theorem get?_etc_longHost :
    longHost.get? ["etc", "root", "work"] = some (.link (longestName ++ "/../real")) := by
  decide +kernel

theorem advances_longHost_link :
    Advances longHost ["root", "work"] .object (directory.route.start ["root", "work"])
      ⟨39, false, ["root", "work"], [.name longestName, .up, .name "real"]⟩ := by
  have h : Advances longHost ["root", "work"] .object
      ⟨39 + 1, false, ["root", "work"], [.name "etc"]⟩ _ :=
    .link searchable_longHost ⟨by simp, by decide⟩ get?_etc_longHost rfl
      (by rw [route_longTarget]; rfl)
  rwa [route_longTarget] at h

theorem advances_longHost_name :
    Advances longHost ["root", "work"] .object
      ⟨39, false, ["root", "work"], [.name longestName, .up, .name "real"]⟩
      ⟨39, false, [longestName, "root", "work"], [.up, .name "real"]⟩ := by
  have hinner : longHost.get? [longestName, "root", "work"] = some (.directory 0o755) := by
    decide +kernel
  have hshort : ¬ maxNameSize < longestName.utf8ByteSize := by
    rw [size_longestName]
    decide
  exact .name searchable_longHost ⟨by simp, hshort⟩ hinner (by simp)

theorem advances_longHost_up :
    Advances longHost ["root", "work"] .object
      ⟨39, false, [longestName, "root", "work"], [.up, .name "real"]⟩
      ⟨39, false, ["root", "work"], [.name "real"]⟩ := by
  have hbelow : [longestName, "root", "work"] ≠ ["root", "work"] :=
    fun h => absurd (congrArg List.length h) (by decide)
  have h : Advances longHost ["root", "work"] .object
      ⟨39, false, [longestName, "root", "work"], [.up, .name "real"]⟩ _ :=
    .up ⟨0o755, by decide +kernel, by decide⟩
  rwa [if_neg hbelow] at h

theorem advances_longHost_last :
    Advances longHost ["root", "work"] .object ⟨39, false, ["root", "work"], [.name "real"]⟩
      ⟨39, false, ["real", "root", "work"], []⟩ :=
  .name searchable_longHost ⟨by simp, by decide⟩ (e := .directory 0o755) (by decide +kernel)
    (by simp)

theorem not_resolve_longHost : ¬ ∃ p, resolve longHost windingRoot directory = .ok p := by
  suffices herror : ∃ e, resolve longHost windingRoot directory = .error e by
    rintro ⟨p, hp⟩
    obtain ⟨e, he⟩ := herror
    rw [he] at hp
    cases hp
  by_cases hask : (below windingRoot ["etc"]).Askable
  · have hentry := entryAt_of_trodden_held namesDirectory_windingRoot .start hask
      searchable_longHost (by decide) get?_etc_longHost
    have hfollows : Follows longHost windingRoot (setOut directory)
        ⟨39, false, [], [.name longestName, .up, .name "real"]⟩ := by
      have h : Follows longHost windingRoot ⟨39 + 1, false, [], [.name "etc"]⟩ _ := .link hentry
      rw [steps_ofText, route_longTarget, ite_self] at h
      exact h
    exact resolve_of_not_askable (.single hfollows) not_askable_longestName
  · exact resolve_of_not_askable .refl hask

/-- A path inside the image that leads a guest to a directory is not resolved where the host cannot
be asked for what the guest looks at on the way. -/
theorem resolve_longPath :
    longHost.WellFormed ∧ longHost.NamesDirectory windingRoot ["root", "work"] ∧
      longHost.lookup ["root", "work"] ["root", "work"] directory.route .object =
        .ok ⟨["real", "root", "work"], some (.directory 0o755), false⟩ ∧
      ¬ longHost.Overshoots ["root", "work"] .object (directory.route.start ["root", "work"]) ∧
      ¬ ∃ p, resolve longHost windingRoot directory = .ok p := by
  have hreal : longHost.get? ["real", "root", "work"] = some (.directory 0o755) := by
    decide +kernel
  refine ⟨?_, namesDirectory_windingRoot, ?_, ?_, not_resolve_longHost⟩
  · exact (((wellFormed_emptyHost.insert 0o755 (by decide) (by decide +kernel)).insert 0o755
      (by decide +kernel) (by decide +kernel)).insert 0o755 (by decide +kernel)
      (by decide +kernel)).insert 0o755 (by decide +kernel) (by decide +kernel)
  · change longHost.comesTo ["root", "work"] .object (directory.route.start ["root", "work"]) = _
    rw [advances_longHost_link.comesTo_eq, advances_longHost_name.comesTo_eq,
      advances_longHost_up.comesTo_eq, advances_longHost_last.comesTo_eq, comesTo, walkLinks_nil,
      hreal]
  · exact Along.not_overshoots (.head advances_longHost_link (.head advances_longHost_name
      (.head advances_longHost_up (.head advances_longHost_last (along_done (by simp)) (by simp))
      fun h => absurd (congrArg List.length h) (by decide)) (by simp)) fun _ _ h => by cases h)

end Hosts

end NameResolution

end GuestImage
