import GuestImage.Proofs.Hindering
import GuestImage.Proofs.Settling
import GuestImage.Proofs.Spelling

/-!
# Making sure twice

A call that made the link has settled the name servers if what it changed is of no concern to the
way of the directory (`Steady`): the way does not come by the place of the link, and by a directory
that was made on the way to it only where nothing but names come after. Then the next call resolves
the directory as the first one did (`resolve_of_steady`), and finds the link in its place.

Else the next call may go another way, to make another link or to fail. What it does is settled by
the tree that the first call left (`ensure_again_iff`).
-/

namespace GuestImage

open FileSystem
open NameResolution (below)

/-- No link leads to a text with a zero character. -/
def FileSystem.Sayable (fs : FileSystem) : Prop :=
  ∀ q target, fs.get? q = some (.link target) → '\x00' ∉ target.toList

theorem FileSystem.Sayable.insert {fs : FileSystem} {q : Place} {e : Entry} (h : fs.Sayable)
    (he : ∀ target, e = .link target → '\x00' ∉ target.toList) : (fs.insert q e).Sayable := by
  intro place target hlink
  rw [get?_insert] at hlink
  split_ifs at hlink
  · exact he target (Option.some.inj hlink)
  · exact h place target hlink

theorem FileSystem.sayable_bare (workDir : Place) : (bare workDir).Sayable := by
  intro q target hlink
  rw [get?_bare] at hlink
  split_ifs at hlink
  cases hlink

namespace NameResolution

/-- No zero character is in what a resolution has come to, nor in what is before it. -/
structure Bearing.Sayable (x : Bearing) : Prop where
  names : ∀ n ∈ x.names, '\x00' ∉ n.toList
  steps : ∀ n, .name n ∈ x.steps → '\x00' ∉ n.toList

theorem sayable_setOut_file : (setOut (directory.child fileName)).Sayable :=
  ⟨nofun, by simp [setOut, directory, fileName, Path.child, Path.join]⟩

section Answers

variable {fs : FileSystem} {root relative p : Path} {x y : Bearing} {e : Failure} {goal : Goal}

theorem notMem_text_below (hroot : '\x00' ∉ root.text.toList) {names : List String}
    (h : ∀ n ∈ names, '\x00' ∉ n.toList) : '\x00' ∉ (below root names).text.toList := by
  induction names with
  | nil =>
    rwa [below_nil]
  | cons n names ih =>
    have hn : n.toList.contains '\x00' = false := by simpa using h n (List.mem_cons_self ..)
    have hnames := ih fun m hm => h m (List.mem_cons_of_mem _ hm)
    have := Path.contains_text_child (p := below root names) (by simpa using hnames) hn
    rw [child_below] at this
    simpa using this

theorem Follows.sayable (hfs : fs.Sayable) (h : Follows fs root x y) (hx : x.Sayable) :
    y.Sayable := by
  obtain ⟨hnames, hsteps⟩ := hx
  have htail : ∀ {step : Step} {rest : List Step}, x.steps = step :: rest →
      ∀ n, .name n ∈ rest → '\x00' ∉ n.toList := fun heq n hn =>
    hsteps n (heq ▸ List.mem_cons_of_mem _ hn)
  cases h with
  | here => exact ⟨hnames, htail rfl⟩
  | up => exact ⟨fun n hn => hnames n (List.mem_cons_of_mem _ hn), htail rfl⟩
  | spelled | missing | name =>
    refine ⟨fun n hn => ?_, htail rfl⟩
    rcases List.mem_cons.1 hn with rfl | hn
    · exact hsteps _ (List.mem_cons_self ..)
    · exact hnames n hn
  | @link links names n rest target held =>
    rw [← child_below] at held
    obtain ⟨dir, -, -, hlink⟩ := exists_of_entryAt held
    refine ⟨fun m hm => ?_, fun m hm => ?_⟩
    · dsimp only at hm
      split at hm
      · exact hnames m hm
      · cases hm
    · rcases List.mem_append.1 hm with hm | hm
      · exact fun hc => hfs _ _ hlink (mem_of_mem_steps hm hc)
      · exact htail rfl m hm

/-- The host refuses what it is asked for, if that has no zero character. -/
theorem isRefusal_of_entryAt (h : '\x00' ∉ p.text.toList) (he : fs.entryAt p goal = .error e) :
    e.isRefusal = true :=
  fs.fails_entryAt (P := fun e => e.isRefusal = true) (covers_of_notMem (fun _ => id) h) goal e he

theorem sayable_of_way (hfs : fs.Sayable) (hx : x.Sayable)
    (hway : Relation.ReflTransGen (Follows fs root) x y) : y.Sayable := by
  induction hway with
  | refl => exact hx
  | tail _ hstep ih => exact hstep.sayable hfs ih

/-- A resolution comes to names without a zero character, or fails for a refusal or for a step up
from the root. -/
theorem resolve_sayable_cases (hfs : fs.Sayable) (hroot : '\x00' ∉ root.text.toList)
    (hrelative : (setOut relative).Sayable) :
    (∃ names, (∀ n ∈ names, '\x00' ∉ n.toList) ∧
        resolve fs root relative = .ok (below root names)) ∨
      ∃ e, resolve fs root relative = .error e ∧ (e.isRefusal = true ∨ e = outside relative) := by
  obtain ⟨y, r, hway, hr⟩ := exists_halts fs root relative maxLinks relative.steps false []
  have hy := sayable_of_way hfs hrelative hway
  have houtcome : resolve fs root relative = r := by
    rw [resolve_eq_outcomeFrom, outcome_eq_iff]
    exact ⟨y, hway, hr⟩
  rw [houtcome]
  cases hr with
  | @done links lost names => exact .inl ⟨names, hy.names, rfl⟩
  | climbing => exact .inr ⟨_, rfl, .inr rfl⟩
  | @blocked links names n rest e refused =>
    refine .inr ⟨e, rfl, .inl (isRefusal_of_entryAt (notMem_text_below hroot ?_) refused)⟩
    intro m hm
    rcases List.mem_cons.1 hm with rfl | hm
    · exact hy.steps _ (List.mem_cons_self ..)
    · exact hy.names m hm
  | tooManyLinks => exact .inr ⟨_, rfl, .inl rfl⟩

/-- Whether a path leads to a file that is not empty has an answer. -/
theorem exists_isNonEmptyFile_eq (hfs : fs.Sayable) (hroot : '\x00' ∉ root.text.toList)
    (hrelative : (setOut relative).Sayable) :
    ∃ answer, isNonEmptyFile fs root relative = .ok answer := by
  have hrefused : ∀ e : Failure, e.isRefusal = true →
      (resolve fs root relative >>= fun p => fs.entryAt p .entry) = .error e →
        isNonEmptyFile fs root relative = .ok false := by
    rintro ⟨fault, causes⟩ he herror
    unfold isNonEmptyFile
    rw [herror]
    cases fault with
    | refusal => rfl
    | _ => cases he
  rcases resolve_sayable_cases hfs hroot hrelative with
    ⟨names, hnames, hpath⟩ | ⟨e, herror, he | rfl⟩
  · rcases hentry : fs.entryAt (below root names) .entry with e | e
    · refine ⟨false, hrefused e ?_ (by rw [hpath]; exact hentry)⟩
      exact isRefusal_of_entryAt (notMem_text_below hroot hnames) hentry
    · refine ⟨e.isNonEmptyFile, ?_⟩
      unfold isNonEmptyFile
      rw [hpath]
      simp only [bind, Except.bind, hentry]
  · exact ⟨false, hrefused e he (by rw [herror]; rfl)⟩
  · refine ⟨false, ?_⟩
    unfold isNonEmptyFile
    rw [herror]
    rfl

end Answers

/-- What is changed for the link is of no concern to a resolution: it does not ask for the place of
the link, and for a missing directory around it only if no step up comes after. -/
def Steady (fs : FileSystem) (root : Path) (place dir : Place) (x : Bearing) : Prop :=
  ∀ links names n rest,
    Relation.ReflTransGen (Follows fs root) x ⟨links, false, names, .name n :: rest⟩ →
      n :: names ++ place ≠ fileName :: dir ∧
        (fs.get? (n :: names ++ place) = none → .up ∈ rest → ¬ n :: names ++ place <:+ dir)

section Treading

variable {fs fs' : FileSystem} {root p : Path} {place inner : Place} {names : List String}
  {n : String}

theorem Trodden.of_keeps (keeps : ∀ q e, fs.get? q = some e → fs'.get? q = some e)
    (h : Trodden fs root place names) : Trodden fs' root place names := by
  induction h with
  | start => exact .start
  | further _ search short held noLink askable ih =>
    exact .further ih (search.of_keeps keeps) short (keeps _ _ held) noLink askable

/-- After names that were gone through, what the host holds under the next one is where the names
say. -/
theorem get?_of_trodden_held {e : Entry} (hroot : fs.NamesDirectory root place)
    (h : Trodden fs root place names)
    (held : fs.entryAt (below root (n :: names)) .entry = .ok e) :
    fs.Searchable (names ++ place) ∧ ¬ maxNameSize < n.utf8ByteSize ∧
      fs.get? (n :: names ++ place) = some e := by
  obtain ⟨slashed, hthere⟩ := lookup_of_trodden hroot h
  rw [← child_below] at held
  obtain ⟨t, ht, he⟩ := exists_lookup_of_entryAt held
  obtain ⟨dir, ⟨mode, s, hlook⟩, search, short, rfl⟩ := exists_of_lookup_child ht
  obtain ⟨rfl, -⟩ := Target.mk.inj (Except.ok.inj (hthere.symm.trans hlook))
  exact ⟨search, short, he⟩

/-- And what is missing there is missing where the names say. -/
theorem get?_of_trodden_missing {e : Failure} (hroot : fs.NamesDirectory root place)
    (h : Trodden fs root place names)
    (hentry : fs.entryAt (below root (n :: names)) .entry = .error e) (he : e.isMissing = true) :
    fs.Searchable (names ++ place) ∧ ¬ maxNameSize < n.utf8ByteSize ∧
      fs.get? (n :: names ++ place) = none ∧ (below root (n :: names)).Askable := by
  have hask : (below root (n :: names)).Askable := by
    by_contra hask
    obtain ⟨e', hentry', hpresent⟩ := entryAt_of_not_askable hask
    obtain rfl := Except.error.inj (hentry.symm.trans hentry')
    rw [he] at hpresent
    cases hpresent
  rw [entryAt_of_trodden hroot h hask] at hentry
  by_cases search : fs.Searchable (names ++ place)
  · by_cases long : maxNameSize < n.utf8ByteSize
    · rw [comesTo_name search, if_neg (by simp), if_pos long] at hentry
      obtain rfl := Except.error.inj hentry
      cases he
    · refine ⟨search, long, ?_, hask⟩
      rw [comesTo_child search long] at hentry
      rcases held : fs.get? (n :: (names ++ place)) with _ | old
      · exact held
      · rw [held] at hentry
        cases hentry
  · obtain ⟨old, hold⟩ := h.exists_held hroot
    rw [comesTo_of_not_searchable search, hold] at hentry
    obtain rfl := Except.error.inj hentry
    cases old <;> cases he

theorem entryAt_of_trodden_absent (hroot : fs.NamesDirectory root place)
    (h : Trodden fs root place names) (hask : (below root (n :: names)).Askable)
    (search : fs.Searchable (names ++ place)) (short : ¬ maxNameSize < n.utf8ByteSize)
    (absent : fs.get? (n :: names ++ place) = none) :
    fs.entryAt (below root (n :: names)) .entry =
      .error (Obstacle.missing.failure [(below root (n :: names)).text]) := by
  have absent : fs.get? (n :: (names ++ place)) = none := absent
  rw [entryAt_of_trodden hroot h hask, comesTo_child search short, absent]
  rfl

/-- The host holds something under the path of a directory. -/
theorem exists_entryAt_of_namesDirectory (h : fs.NamesDirectory (p.child n) inner)
    (hask : (p.child n).Askable) : ∃ e, fs.entryAt (p.child n) .entry = .ok e := by
  obtain ⟨mode, slashed, hlook⟩ := h
  obtain ⟨t, e, ht, he⟩ := exists_comesTo_entry
    (x := ⟨maxLinks, (p.child n).route.slashed, fs.start (p.child n), (p.child n).route.steps⟩)
    hlook rfl
  have ht : fs.lookup [] fs.workDir (p.child n).route .entry = .ok t := ht
  obtain ⟨dir, -, -, -, rfl⟩ := exists_of_lookup_child ht
  refine ⟨e, ?_⟩
  have held : fs.get? (n :: dir) = some e := he
  unfold entryAt find
  rw [locate_of_askable hask, ht, held]
  rfl

theorem askable_of_suffix {last : List String} (h : (below root last).Askable)
    (hnames : names <:+ last) : (below root names).Askable := by
  induction last with
  | nil => exact (List.suffix_nil.1 hnames) ▸ h
  | cons m last ih =>
    rcases List.suffix_cons_iff.1 hnames with rfl | hnames
    · exact h
    · rw [← child_below] at h
      exact ih h.of_child hnames

end Treading

section Lost

variable {fs : FileSystem} {root relative : Path} {links : Nat}

/-- Once a name is missing, the tree does not matter any more. -/
theorem outcomeFrom_lost (fs fs' : FileSystem) (steps : List Step) (names : List String) :
    outcomeFrom fs root relative ⟨links, true, names, steps⟩ =
      outcomeFrom fs' root relative ⟨links, true, names, steps⟩ := by
  induction steps generalizing names with
  | nil => exact Halts.done.outcome_eq.trans Halts.done.outcome_eq.symm
  | cons step rest ih =>
    cases step with
    | here => exact Follows.here.outcome_eq.trans ((ih names).trans Follows.here.outcome_eq.symm)
    | up =>
      cases names with
      | nil => exact Halts.climbing.outcome_eq.trans Halts.climbing.outcome_eq.symm
      | cons n names =>
        exact Follows.up.outcome_eq.trans ((ih names).trans Follows.up.outcome_eq.symm)
    | name n =>
      exact Follows.spelled.outcome_eq.trans ((ih _).trans Follows.spelled.outcome_eq.symm)

theorem suffix_of_lost {steps : List Step} {names last : List String} (spelled : .up ∉ steps)
    (h : outcomeFrom fs root relative ⟨links, true, names, steps⟩ = .ok (below root last)) :
    names <:+ last := by
  induction steps generalizing names with
  | nil =>
    rw [Halts.done.outcome_eq] at h
    exact (below_injective (Except.ok.inj h)) ▸ List.suffix_rfl
  | cons step rest ih =>
    have hrest : Step.up ∉ rest := fun hup => spelled (List.mem_cons_of_mem _ hup)
    cases step with
    | here => exact ih hrest (Follows.here.outcome_eq.symm.trans h)
    | up => exact absurd (List.mem_cons_self ..) spelled
    | name n =>
      exact (List.suffix_cons ..).trans (ih hrest (Follows.spelled.outcome_eq.symm.trans h))

end Lost

section Steady

variable {fs mid : FileSystem} {root relative p : Path} {place dir q : Place} {e : Entry}
  {links : Nat} {names last : List String} {n : String} {x y : Bearing}

theorem Steady.of_follows (h : Steady fs root place dir x) (hxy : Follows fs root x y) :
    Steady fs root place dir y :=
  fun links names n rest hway => h links names n rest (.head hxy hway)

theorem Installs.keeps_searchable (h : Installs fs mid p dir) (search : fs.Searchable q) :
    mid.Searchable q := by
  obtain ⟨mode, hmode, hright⟩ := search
  refine ⟨mode, h.keeps q _ ?_ hmode, hright⟩
  rintro rfl
  exact h.room mode hmode

/-- A root is where it was: what was in the place of the link is not on the way to it. -/
theorem Installs.namesRoot (h : Installs fs mid (below root last) dir)
    (hroot : fs.NamesDirectory root place) : mid.NamesDirectory root place := by
  obtain ⟨outer, houter⟩ := h.names.exists_of_suffix (List.nil_suffix (l := last))
  rw [below_nil] at houter
  -- both trees are part of one in which nothing was removed for the link
  obtain ⟨all, hwork, hfs, hmid⟩ : ∃ all : FileSystem, all.workDir = fs.workDir ∧
      (∀ q e, fs.get? q = some e → all.get? q = some e) ∧
      ∀ q e, mid.get? q = some e → all.get? q = some e := by
    rcases hold : fs.get? (fileName :: dir) with _ | old
    · refine ⟨mid, h.workDir, fun q e hq => h.keeps q e ?_ hq, fun _ _ hq => hq⟩
      rintro rfl
      rw [hold] at hq
      cases hq
    · refine ⟨mid.insert (fileName :: dir) old, h.workDir, fun q e hq => ?_, fun q e hq => ?_⟩
      · rw [get?_insert]
        split_ifs with hself
        · rw [← hold, ← hself, hq]
        · exact h.keeps q e hself hq
      · rw [get?_insert, if_neg, hq]
        rintro rfl
        rw [h.free] at hq
        cases hq
  have hplace := hroot.of_keeps hwork hfs
  obtain rfl := hplace.eq (houter.of_keeps (hwork.trans h.workDir.symm) hmid)
  exact houter

theorem Installs.namesRoot_after (h : Installs fs mid p dir)
    (hmid : mid.NamesDirectory root place) :
    (withLink mid dir).NamesDirectory root place :=
  hmid.of_keeps rfl fun _ _ => h.kept

/-- What is there before the link is made is found after it, too. -/
theorem Installs.entryAt_after (h : Installs fs mid p dir) (hmid : mid.NamesDirectory root place)
    (htrodden : Trodden mid root place names) (hask : (below root (n :: names)).Askable)
    (search : mid.Searchable (names ++ place)) (short : ¬ maxNameSize < n.utf8ByteSize)
    (held : mid.get? (n :: names ++ place) = some e) :
    (withLink mid dir).entryAt (below root (n :: names)) .entry = .ok e :=
  entryAt_of_trodden_held (h.namesRoot_after hmid) (htrodden.of_keeps fun _ _ => h.kept) hask
    (search.of_keeps fun _ _ => h.kept) short (h.kept held)

/-- Where the link is of no concern, what the host holds under a name is held once the link is
made. -/
theorem further_of_steady {rest : List Step} (h : Installs fs mid p dir)
    (hroot : fs.NamesDirectory root place) (hmid : mid.NamesDirectory root place)
    (htrodden : Trodden fs root place names) (hstill : Trodden mid root place names)
    (hsteady : Steady fs root place dir ⟨links, false, names, .name n :: rest⟩)
    (entry : fs.entryAt (below root (n :: names)) .entry = .ok e) :
    (withLink mid dir).entryAt (below root (n :: names)) .entry = .ok e ∧
      ((∀ target, e ≠ .link target) →
        Trodden fs root place (n :: names) ∧ Trodden mid root place (n :: names)) := by
  have hask := askable_of_entryAt entry
  obtain ⟨search, short, held⟩ := get?_of_trodden_held hroot htrodden entry
  have search' := h.keeps_searchable search
  have held' := h.keeps _ _ (hsteady _ _ _ _ .refl).1 held
  exact ⟨h.entryAt_after hmid hstill hask search' short held', fun noLink =>
    ⟨.further htrodden search short held noLink hask,
      .further hstill search' short held' noLink hask⟩⟩

/-- Where the names that were kept as they were spelled are there now, and are no links, they are
gone through. -/
theorem outcome_of_spelled {first : List String} (h : Installs fs mid (below root last) dir)
    (hmid : mid.NamesDirectory root place)
    (noLink : ∀ s, first <:+ s → ∀ target, mid.get? (s ++ place) ≠ some (.link target))
    (steps : List Step) (spelled : .up ∉ steps) (hfirst : first <:+ names)
    (htrodden : Trodden mid root place names)
    (hlost : outcomeFrom fs root relative ⟨links, true, names, steps⟩ = .ok (below root last)) :
    outcomeFrom (withLink mid dir) root relative ⟨links, false, names, steps⟩ =
      .ok (below root last) := by
  induction steps generalizing names with
  | nil => exact Halts.done.outcome_eq.trans (Halts.done.outcome_eq.symm.trans hlost)
  | cons step rest ih =>
    have hrest : Step.up ∉ rest := fun hup => spelled (List.mem_cons_of_mem _ hup)
    cases step with
    | here =>
      exact Follows.here.outcome_eq.trans
        (ih hrest hfirst htrodden (Follows.here.outcome_eq.symm.trans hlost))
    | up => exact absurd (List.mem_cons_self ..) spelled
    | name m =>
      have hlost := Follows.spelled.outcome_eq.symm.trans hlost
      have hlast : m :: names <:+ last := suffix_of_lost hrest hlost
      have hask := askable_of_suffix h.askable.of_child hlast
      obtain ⟨inner, hinner⟩ := h.names.exists_of_suffix hlast
      rw [← child_below] at hask hinner
      obtain ⟨e, hentry⟩ := exists_entryAt_of_namesDirectory hinner hask
      rw [child_below] at hask hentry
      obtain ⟨search, short, held⟩ := get?_of_trodden_held hmid htrodden hentry
      have hfirst : first <:+ m :: names := hfirst.trans (List.suffix_cons ..)
      have hno : ∀ target, e ≠ .link target := by
        rintro target rfl
        exact noLink _ hfirst target held
      have hafter := h.entryAt_after hmid htrodden hask search short held
      exact (Follows.name hafter hno).outcome_eq.trans
        (ih hrest hfirst (.further htrodden search short held hno hask) hlost)

/-- Where a name is missing, the resolution comes to the same once the link is made. -/
theorem outcome_of_missing {rest : List Step} (hwf : fs.WellFormed)
    (h : Installs fs mid (below root last) dir)
    (hroot : fs.NamesDirectory root place) (hmid : mid.NamesDirectory root place)
    (htrodden : Trodden fs root place names) (hstill : Trodden mid root place names)
    (hsteady : Steady fs root place dir ⟨links, false, names, .name n :: rest⟩) {e : Failure}
    (absent : fs.entryAt (below root (n :: names)) .entry = .error e) (he : e.isMissing = true)
    (hlost : outcomeFrom fs root relative ⟨links, true, n :: names, rest⟩ =
      .ok (below root last)) :
    outcomeFrom (withLink mid dir) root relative ⟨links, false, names, .name n :: rest⟩ =
      .ok (below root last) := by
  obtain ⟨search, short, hnone, hask⟩ := get?_of_trodden_missing hroot htrodden absent he
  obtain ⟨hne, hup⟩ := hsteady _ _ _ _ .refl
  have search := h.keeps_searchable search
  rcases held : mid.get? (n :: names ++ place) with _ | old
  · have hmissing : (withLink mid dir).get? (n :: names ++ place) = none := by
      rw [get?_insert, if_neg hne, held]
    have hentry := entryAt_of_trodden_absent (h.namesRoot_after hmid)
      (hstill.of_keeps fun _ _ => h.kept) hask (search.of_keeps fun _ _ => h.kept) short hmissing
    exact (Follows.missing hentry rfl).outcome_eq.trans
      ((outcomeFrom_lost _ _ rest (n :: names)).trans hlost)
  · -- the name is that of a directory that was made, and so is every name after it
    obtain ⟨hdir, haround⟩ := (h.added _ _ held).resolve_left
      fun hold => nomatch hnone.symm.trans hold
    have hrest : Step.up ∉ rest := fun hmem => hup hnone hmem haround
    have hno : ∀ target, old ≠ .link target := by
      rintro target rfl
      cases hdir
    have noLink : ∀ s, n :: names <:+ s →
        ∀ target, mid.get? (s ++ place) ≠ some (.link target) := by
      intro s hs target hlink
      rcases h.added _ _ hlink with hold | ⟨hdir, -⟩
      · have hheld : fs.get? (s ++ place) ≠ none := by simp [hold]
        exact held_of_suffix hwf hheld (List.suffix_append_self_iff.2 hs) hnone
      · cases hdir
    have hentry := h.entryAt_after hmid hstill hask search short held
    exact (Follows.name hentry hno).outcome_eq.trans (outcome_of_spelled h hmid noLink rest hrest
      List.suffix_rfl (.further hstill search short held hno hask) hlost)

/-- A resolution that what is changed for the link is of no concern to comes to the same once the
link is made. -/
theorem outcome_of_steady (hwf : fs.WellFormed) (h : Installs fs mid (below root last) dir)
    (hroot : fs.NamesDirectory root place) (links : Nat) (steps : List Step) :
    ∀ names, Trodden fs root place names → Trodden mid root place names →
      Steady fs root place dir ⟨links, false, names, steps⟩ →
      outcomeFrom fs root relative ⟨links, false, names, steps⟩ = .ok (below root last) →
      outcomeFrom (withLink mid dir) root relative ⟨links, false, names, steps⟩ =
        .ok (below root last) := by
  have hmid := h.namesRoot hroot
  induction links, steps using lookup_induction with
  | h links steps ihSteps ihLinks =>
    intro names htrodden hstill hsteady hout
    rcases halts_or_follows fs root relative ⟨links, false, names, steps⟩ with ⟨r, hr⟩ | ⟨y, hy⟩
    · rw [hr.outcome_eq] at hout
      cases hr with
      | done => exact Halts.done.outcome_eq.trans hout
      | climbing | blocked | tooManyLinks => cases hout
    have hsteady' := hsteady.of_follows hy
    have hout' := hy.outcome_eq.symm.trans hout
    cases hy with
    | here =>
      exact Follows.here.outcome_eq.trans (ihSteps _ (by simp) _ htrodden hstill hsteady' hout')
    | up =>
      exact Follows.up.outcome_eq.trans
        (ihSteps _ (by simp) _ htrodden.tail hstill.tail hsteady' hout')
    | missing absent he =>
      exact outcome_of_missing hwf h hroot hmid htrodden hstill hsteady absent he hout'
    | name entry noLink =>
      obtain ⟨entry', hfurther⟩ := further_of_steady h hroot hmid htrodden hstill hsteady entry
      obtain ⟨htrodden', hstill'⟩ := hfurther noLink
      exact (Follows.name entry' noLink).outcome_eq.trans
        (ihSteps _ (by simp) _ htrodden' hstill' hsteady' hout')
    | link entry =>
      have entry' := (further_of_steady h hroot hmid htrodden hstill hsteady entry).1
      refine (Follows.link entry').outcome_eq.trans
        (ihLinks _ (by omega) _ _ ?_ ?_ hsteady' hout')
      · split_ifs
        · exact htrodden
        · exact .start
      · split_ifs
        · exact hstill
        · exact .start

end Steady

section Again

variable {fs mid : FileSystem} {root p : Path} {place dir : Place} {last : List String}

/-- The directory is resolved as it was, once the link is made. -/
theorem resolve_of_steady (hwf : fs.WellFormed) (h : Installs fs mid (below root last) dir)
    (hroot : fs.NamesDirectory root place)
    (hpath : resolve fs root directory = .ok (below root last))
    (hsteady : Steady fs root place dir (setOut directory)) :
    resolve (withLink mid dir) root directory = .ok (below root last) := by
  rw [resolve_eq_outcomeFrom] at hpath ⊢
  exact outcome_of_steady hwf h hroot maxLinks directory.steps [] .start .start hsteady hpath

theorem Installs.sayable (h : Installs fs mid p dir) (hfs : fs.Sayable) :
    (withLink mid dir).Sayable := by
  have hmid : mid.Sayable := by
    intro q target hlink
    rcases h.added q _ hlink with hold | ⟨hdir, -⟩
    · exact hfs q target hold
    · cases hdir
  refine hmid.insert fun target hlink => ?_
  obtain rfl := Entry.link.inj hlink
  decide

theorem Installs.wellFormed_after (h : Installs fs mid p dir) : (withLink mid dir).WellFormed := by
  obtain ⟨mode, hmode, -⟩ := h.search
  exact h.wellFormed.insert mode hmode h.free

/-- The next call keeps name servers of the image, or finds the link in its place. -/
theorem settled_of_steady (hwf : fs.WellFormed) (hfs : fs.Sayable)
    (h : Installs fs mid (below root last) dir) (hroot : fs.NamesDirectory root place)
    (hpath : resolve fs root directory = .ok (below root last))
    (hsteady : Steady fs root place dir (setOut directory)) :
    Settled (withLink mid dir) root := by
  have hagain := resolve_of_steady hwf h hroot hpath hsteady
  have hask := askable_of_suffix h.askable.of_child (List.nil_suffix (l := last))
  rw [below_nil] at hask
  obtain ⟨answer, hanswer⟩ :=
    exists_isNonEmptyFile_eq (h.sayable hfs) (by simpa using hask.1) sayable_setOut_file
  cases answer with
  | true =>
    refine settled_of_ensure_false ?_
    rw [ensure_apply, hagain, hanswer]
  | false =>
    have hlink : (withLink mid dir).get? (fileName :: dir) = some (.link linkText) := by
      rw [get?_insert, if_pos rfl]
    have hwritable : (withLink mid dir).permits dir .write = true := by
      rw [permits, get?_insert, if_neg (List.cons_ne_self _ _).symm]
      exact h.writable
    exact InPlace.settled ⟨hanswer, hagain, h.names.insert h.free _,
      h.search.of_keeps fun _ _ => h.kept, hlink, h.unpassed, h.askable, hwritable⟩

/-- After a call that made the link, the next one changes nothing exactly where the image has name
servers of its own now, or the link is in its place. It is so where what was changed for the link is
of no concern to the way of its directory. -/
theorem ensure_again_iff (hwf : fs.WellFormed) (hroot : fs.NamesDirectory root place)
    (hlinked : (ensure root fs).1 = .ok true) :
    (Settled (ensure root fs).2 root ↔ (ensure root (ensure root fs).2).1 = .ok false ∨
        ∃ p dir, InPlace (ensure root fs).2 root p dir) ∧
      (fs.Sayable → ∀ p dir, resolve fs root directory = .ok p →
        (ensure root fs).2.NamesDirectory p dir → Steady fs root place dir (setOut directory) →
          Settled (ensure root fs).2 root ∧ resolve (ensure root fs).2 root directory = .ok p) := by
  obtain ⟨last, mid, dir, hpath, -, hinstalls, hafter⟩ :=
    exists_installs hwf hroot.grounds hlinked
  rw [hafter]
  have hroot' := hinstalls.namesRoot_after (hinstalls.namesRoot hroot)
  refine ⟨settled_iff hinstalls.wellFormed_after hroot'.grounds, fun hfs p d hp hd hsteady => ?_⟩
  obtain rfl := Except.ok.inj (hpath.symm.trans hp)
  obtain rfl := (hinstalls.names.insert hinstalls.free _).eq hd
  exact ⟨settled_of_steady hwf hfs hinstalls hroot hpath hsteady,
    resolve_of_steady hwf hinstalls hroot hpath hsteady⟩

end Again

section Hosts

theorem steady_servedHost : Steady (servedHost "gone") imageRoot ["root", "work"]
    ["etc", "root", "work"] (setOut directory) := by
  intro links names n rest hway
  have hetc : (servedHost "gone").entryAt (below imageRoot ["etc"]) .entry =
      .ok (.directory 0o755) := by decide +kernel
  rcases hway.cases_head with heq | ⟨y, hy, hrest⟩
  · obtain ⟨-, -, rfl, hsteps⟩ := Bearing.mk.inj heq
    obtain ⟨hn, rfl⟩ := List.cons.inj hsteps
    obtain rfl := Step.name.inj hn
    exact ⟨by decide, nofun⟩
  · have hend : y = ⟨maxLinks, false, ["etc"], []⟩ := by
      cases hy with
      | missing absent => rw [hetc] at absent; cases absent
      | name => rfl
      | link held => rw [hetc] at held; cases held
    subst hend
    rcases hrest.cases_head with heq | ⟨z, hz, -⟩
    · cases heq
    · cases hz

/-- A host with an image whose directory for the link is named by way of a missing name, which is
that of the directory itself, and of a link. -/
def bentHost : FileSystem :=
  (((emptyHost.insert ["b", "root", "work"] (.directory 0o755)).insert ["c", "b", "root", "work"]
    (.directory 0o755)).insert ["l", "root", "work"] (.link "b/c")).insert ["etc", "root", "work"]
    (.link "a/../l/../a")

/-- A host with an image whose directory for the link is named by what is replaced by the link. -/
def loopedHost : FileSystem :=
  (emptyHost.insert [fileName, "root", "work"] (.link ".")).insert ["etc", "root", "work"]
    (.link fileName)

theorem wellFormed_bentHost : bentHost.WellFormed :=
  (((wellFormed_emptyHost.insert 0o755 (by decide) (by decide)).insert 0o755 (by decide +kernel)
    (by decide +kernel)).insert 0o755 (by decide +kernel) (by decide +kernel)).insert 0o755
    (by decide +kernel) (by decide +kernel)

theorem wellFormed_loopedHost : loopedHost.WellFormed :=
  (wellFormed_emptyHost.insert 0o755 (by decide) (by decide)).insert 0o755
    (by decide +kernel) (by decide +kernel)

theorem sayable_servedHost : (servedHost "gone").Sayable := by
  have hbare := sayable_bare ["work"]
  refine (((hbare.insert (by simp)).insert (by simp)).insert (by simp [serverFile])).insert ?_
  intro target hlink
  obtain rfl := Entry.link.inj hlink
  decide

/-- A link to nowhere is replaced once. Where the way of the directory goes through the directory
that is made, another link is made, and where it goes through the link, the next call fails. -/
theorem ensure_again_hosts :
    ((ensure imageRoot (servedHost "gone")).1 = .ok true ∧
      Settled (ensure imageRoot (servedHost "gone")).2 imageRoot) ∧
    ((ensure imageRoot bentHost).1 = .ok true ∧
      (ensure imageRoot (ensure imageRoot bentHost).2).1 = .ok true ∧
      (ensure imageRoot bentHost).2.get? [fileName, "a", "b", "root", "work"] = none ∧
      (ensure imageRoot (ensure imageRoot bentHost).2).2.get?
        [fileName, "a", "b", "root", "work"] = some (.link linkText) ∧
      ∀ p dir, ¬ InPlace (ensure imageRoot bentHost).2 imageRoot p dir) ∧
    (ensure imageRoot loopedHost).1 = .ok true ∧
      (ensure imageRoot (ensure imageRoot loopedHost).2).1 = .error (outside directory) ∧
      ∀ p dir, ¬ InPlace (ensure imageRoot loopedHost).2 imageRoot p dir := by
  have hserved : (servedHost "gone").NamesDirectory imageRoot ["root", "work"] :=
    ⟨0o755, false, rfl⟩
  have hbent : bentHost.NamesDirectory imageRoot ["root", "work"] :=
    ⟨0o755, false, by decide +kernel⟩
  have hlooped : loopedHost.NamesDirectory imageRoot ["root", "work"] :=
    ⟨0o755, false, by decide +kernel⟩
  have hservedTrue : (ensure imageRoot (servedHost "gone")).1 = .ok true := by decide +kernel
  have hbentTrue : (ensure imageRoot bentHost).1 = .ok true := by decide +kernel
  have hloopedTrue : (ensure imageRoot loopedHost).1 = .ok true := by decide +kernel
  have hbentNone : (ensure imageRoot bentHost).2.get? [fileName, "a", "b", "root", "work"] = none :=
    by decide +kernel
  have hbentLink : (ensure imageRoot (ensure imageRoot bentHost).2).2.get?
      [fileName, "a", "b", "root", "work"] = some (.link linkText) := by decide +kernel
  have hloopedFails : (ensure imageRoot (ensure imageRoot loopedHost).2).1 =
      .error (outside directory) := by decide +kernel
  refine ⟨⟨hservedTrue, ?_⟩, ⟨hbentTrue, by decide +kernel, hbentNone, hbentLink,
    fun p dir hplace => ?_⟩, hloopedTrue, hloopedFails, fun p dir hplace => ?_⟩
  · exact ((ensure_again_iff (wellFormed_servedHost _) hserved hservedTrue).2 sayable_servedHost
      (below imageRoot ["etc"]) ["etc", "root", "work"] rfl ⟨0o755, false, by decide +kernel⟩
      steady_servedHost).1
  · have hsettled := (ensure_again_iff wellFormed_bentHost hbent hbentTrue).1.2
      (.inr ⟨p, dir, hplace⟩)
    have hsame := hsettled.2 [fileName, "a", "b", "root", "work"]
    rw [hbentNone, hbentLink] at hsame
    cases hsame
  · obtain ⟨⟨linked, hlinked⟩, -⟩ :=
      (ensure_again_iff wellFormed_loopedHost hlooped hloopedTrue).1.2 (.inr ⟨p, dir, hplace⟩)
    rw [hloopedFails] at hlinked
    cases hlinked

end Hosts

end NameResolution

end GuestImage
