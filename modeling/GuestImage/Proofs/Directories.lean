import GuestImage.Proofs.GuestView

/-!
# Names in the directories of paths

What the path of an entry leads to is found in two parts: what the path of its directory leads to,
and the entry there (`lookup_child`). So all that is done to an entry is done in the directory that
the path without its last name names (`NamesDirectory`), be it by way of links.

A file is removed, and a directory or a link made, in that directory, and this succeeds unless the
directory refuses it or the path cannot be asked for (`Path.Askable`).
-/

namespace GuestImage

open NameResolution (below)

/-- A path that can be asked for: it has no zero character and is not too long. -/
def Path.Askable (p : Path) : Prop :=
  p.text.toList.contains '\x00' = false ∧ p.text.utf8ByteSize < FileSystem.maxPathSize

instance (p : Path) : Decidable p.Askable :=
  inferInstanceAs (Decidable (_ ∧ _))

theorem intercalate_concat (separator : String) {l : List String} (hl : l ≠ []) (a : String) :
    separator.intercalate (l ++ [a]) = separator.intercalate l ++ separator ++ a := by
  induction l with
  | nil => exact absurd rfl hl
  | cons b l ih =>
    cases l with
    | nil => simp [String.intercalate_cons_cons]
    | cons c l =>
      rw [List.cons_append, List.cons_append, String.intercalate_cons_cons, ← List.cons_append,
        ih (by simp), String.intercalate_cons_cons]
      simp only [String.append_assoc]

theorem Path.text_child (p : Path) (n : String) : (p.child n).text =
    if p.steps = [] then p.anchor.text ++ n else p.text ++ "/" ++ n := by
  have hchild : (p.child n).text =
      p.anchor.text ++ "/".intercalate (p.steps.map Step.text ++ [n]) := by
    simp [Path.text, Path.child, Path.join, Step.text]
  rw [hchild]
  split
  · rename_i hsteps
    rw [hsteps]
    simp
  · rename_i hsteps
    have htext : p.text = p.anchor.text ++ "/".intercalate (p.steps.map Step.text) := by
      simp [Path.text, hsteps]
    rw [htext, intercalate_concat _ (by simpa using hsteps)]
    simp only [String.append_assoc]

/-- With the path of a name, that of its directory can be asked for. -/
theorem Path.Askable.of_child {p : Path} {n : String} (h : (p.child n).Askable) : p.Askable := by
  obtain ⟨hnul, hsize⟩ := h
  rw [Path.text_child] at hnul hsize
  split at hnul
  · rename_i hsteps
    obtain ⟨anchor, steps⟩ := p
    obtain rfl : steps = [] := hsteps
    cases anchor <;> decide
  · rename_i hsteps
    rw [if_neg hsteps, String.utf8ByteSize_append, String.utf8ByteSize_append] at hsize
    simp only [String.toList_append, List.contains_append, Bool.or_eq_false_iff] at hnul
    exact ⟨hnul.1.1, by omega⟩

theorem Path.contains_text_child {p : Path} {n : String}
    (h : p.text.toList.contains '\x00' = false)
    (hn : n.toList.contains '\x00' = false) : (p.child n).text.toList.contains '\x00' = false := by
  rw [Path.text_child]
  split
  · have hanchor : p.anchor.text.toList.contains '\x00' = false := by
      cases p.anchor <;> decide
    rw [String.toList_append, List.contains_append, hanchor, hn]
    rfl
  · have hslash : "/".toList.contains '\x00' = false := by decide
    rw [String.toList_append, String.toList_append, List.contains_append, List.contains_append, h,
      hslash, hn]
    rfl

namespace FileSystem

/-- A path names the directory at a place, be it by way of links. -/
def NamesDirectory (fs : FileSystem) (p : Path) (dir : Place) : Prop :=
  ∃ mode slashed, fs.lookup [] fs.workDir p.route .object =
    .ok ⟨dir, some (.directory mode), slashed⟩

section Child

variable {fs : FileSystem} {top : Place} {p : Path} {dir : Place} {n : String}

/-- How many links may still be followed does not matter for one who looks for the entry itself. -/
theorem comesTo_last (links : Nat) (dir : Place) (n : String) :
    fs.comesTo top .entry ⟨links, false, dir, [.name n]⟩ =
      fs.comesTo top .entry ⟨0, false, dir, [.name n]⟩ := by
  simp only [comesTo, walkLinks_cons, walkLinks_nil, Goal.follows, List.isEmpty_nil, Bool.not_true,
    Bool.or_self, Bool.false_eq_true, if_false]

/-- A path of steps and a name leads to the entry of the name in what the steps lead to. -/
theorem comesTo_append_name (n : String) (links : Nat) (steps : List Step) :
    ∀ (slashed : Bool) (dir : Place),
      fs.comesTo top .entry ⟨links, false, dir, steps ++ [.name n]⟩ =
        fs.comesTo top .object ⟨links, slashed, dir, steps⟩ >>= fun t =>
          fs.comesTo top .entry ⟨0, false, t.place, [.name n]⟩ := by
  induction links, steps using lookup_induction with
  | h links steps ihSteps ihLinks =>
    intro slashed dir
    rcases steps with _ | ⟨step, rest⟩
    · rw [List.nil_append, comesTo_last, comesTo, comesTo, walkLinks_nil]
      rfl
    rw [List.cons_append]
    by_cases search : fs.Searchable dir
    · cases step with
      | here =>
        rw [(Advances.here search).comesTo_eq, (Advances.here search).comesTo_eq]
        exact ihSteps rest (by simp) slashed dir
      | up =>
        rw [(Advances.up search).comesTo_eq, (Advances.up search).comesTo_eq]
        exact ihSteps rest (by simp) slashed _
      | name m =>
        have hmore : (rest ++ [Step.name n]).isEmpty = false := by simp
        rw [comesTo_name search, comesTo_name search]
        simp only [reduceCtorEq, decide_false, Bool.false_and, Bool.false_eq_true, if_false]
        by_cases hlong : maxNameSize < m.utf8ByteSize
        · rw [if_pos hlong, if_pos hlong]
          rfl
        rw [if_neg hlong, if_neg hlong]
        rcases held : fs.get? (m :: dir) with _ | e
        -- nothing is below a missing name, whether the steps end with it or go on
        · have absent : ¬ fs.Searchable (m :: dir) := by
            rintro ⟨mode, hmode, -⟩
            rw [held] at hmode
            cases hmode
          simp only [hmore, Bool.false_eq_true, if_false]
          split
          · change _ = fs.comesTo top .entry ⟨0, false, m :: dir, [.name n]⟩
            rw [comesTo_of_not_searchable absent, held]
            rfl
          · rfl
        cases e with
        | directory => exact ihSteps rest (by simp) slashed (m :: dir)
        | file => exact ihSteps rest (by simp) slashed (m :: dir)
        | link target =>
          simp only [hmore, Goal.follows, Bool.not_false, Bool.or_true, Bool.true_or, if_true]
          cases links with
          | zero => rfl
          | succ links =>
            simp only [followLink, hmore, Bool.false_and, Bool.or_false]
            split
            · rfl
            · rw [← List.append_assoc]
              exact ihLinks links (by omega) _ _ _
    · rw [comesTo_of_not_searchable search, comesTo_of_not_searchable search]
      rfl

/-- The path of a name alone is without the dot that stands for its directory. -/
theorem route_of_dot (h : p.anchor = .relative ∧ p.steps = []) (n : String) :
    p.route = ⟨false, [.here], false⟩ ∧ (p.child n).route = ⟨false, [.name n], false⟩ := by
  obtain ⟨hrel, hsteps⟩ := h
  simp [Path.route, Path.child, Path.join, hrel, hsteps]

theorem route_child (h : ¬ (p.anchor = .relative ∧ p.steps = [])) (n : String) :
    (p.child n).route = ⟨p.route.fromTop, p.route.steps ++ [.name n], false⟩ := by
  simp only [Path.route, Path.child, Path.join]
  by_cases hrel : p.anchor = .relative <;> by_cases hsteps : p.steps = [] <;> simp_all

/-- The entry of a name in what a path leads to. -/
theorem lookup_child (fs : FileSystem) (p : Path) (n : String) :
    fs.lookup [] fs.workDir (p.child n).route .entry =
      fs.lookup [] fs.workDir p.route .object >>= fun t =>
        fs.comesTo [] .entry ⟨0, false, t.place, [.name n]⟩ := by
  by_cases hdot : p.anchor = .relative ∧ p.steps = []
  · obtain ⟨hroute, hchild⟩ := route_of_dot hdot n
    rw [hroute, hchild]
    change fs.comesTo [] .entry ⟨maxLinks, false, fs.workDir, [.name n]⟩ =
      fs.comesTo [] .object ⟨maxLinks, false, fs.workDir, [.here]⟩ >>= _
    rw [comesTo_last]
    by_cases search : fs.Searchable fs.workDir
    · rw [(Advances.here search).comesTo_eq, comesTo.eq_def fs [] .object, walkLinks_nil]
      rfl
    · rw [comesTo_of_not_searchable search, comesTo_of_not_searchable search]
      rfl
  · rw [route_child hdot n]
    exact comesTo_append_name n maxLinks p.route.steps false _

/-- A name in the directory that a path names is looked up there, also if it is to be followed. -/
theorem NamesDirectory.exists_lookup_child (h : fs.NamesDirectory p dir) (n : String) :
    ∃ links, ∀ goal, goal ≠ .newFile →
      fs.lookup [] fs.workDir (p.child n).route goal =
        fs.comesTo [] goal ⟨links, false, dir, [.name n]⟩ := by
  obtain ⟨mode, slashed, h⟩ := h
  by_cases hdot : p.anchor = .relative ∧ p.steps = []
  · obtain ⟨hroute, hchild⟩ := route_of_dot hdot n
    have hdir : fs.workDir = dir := by
      rw [hroute] at h
      obtain ⟨y, hy⟩ := (arrives_or_advances (x := ⟨maxLinks, false, fs.workDir, [.here]⟩)
        h).resolve_left nofun
      have hend := hy.comesTo_eq.symm.trans h
      cases hy
      rw [comesTo, walkLinks_nil, Except.ok.injEq, Target.mk.injEq] at hend
      exact hend.1
    rw [hchild, hdir]
    exact ⟨maxLinks, fun _ _ => rfl⟩
  · change fs.comesTo [] .object ⟨maxLinks, false, fs.start p, p.route.steps⟩ = _ at h
    obtain ⟨y, hway, harr⟩ := comesTo_eq_ok_iff.1 h
    rw [harr.eq_of_held rfl (by simp)] at hway
    rw [route_child hdot n]
    exact ⟨y.links, fun goal hgoal => comesTo_eq_of_way (way_append hgoal (by simp) false hway)⟩

theorem NamesDirectory.lookup_child (h : fs.NamesDirectory p dir) (n : String) :
    fs.lookup [] fs.workDir (p.child n).route .entry =
      fs.comesTo [] .entry ⟨0, false, dir, [.name n]⟩ := by
  obtain ⟨mode, slashed, h⟩ := h
  rw [FileSystem.lookup_child, h]
  rfl

theorem NamesDirectory.held (h : fs.NamesDirectory p dir) :
    ∃ mode, fs.get? dir = some (.directory mode) := by
  obtain ⟨mode, slashed, h⟩ := h
  exact ⟨mode, get?_of_lookup h⟩

theorem NamesDirectory.eq {dir' : Place} (h : fs.NamesDirectory p dir)
    (h' : fs.NamesDirectory p dir') : dir = dir' := by
  obtain ⟨m, slashed, hlook⟩ := h
  obtain ⟨m', slashed', hlook'⟩ := h'
  exact congrArg Target.place (Except.ok.inj (hlook.symm.trans hlook'))

/-- What names a directory still does where nothing was removed. -/
theorem NamesDirectory.of_keeps {fs' : FileSystem} (h : fs.NamesDirectory p dir)
    (hwork : fs'.workDir = fs.workDir) (keeps : ∀ q e, fs.get? q = some e → fs'.get? q = some e) :
    fs'.NamesDirectory p dir := by
  obtain ⟨mode, slashed, hlook⟩ := h
  change fs.comesTo [] .object ⟨maxLinks, false, fs.start p, p.route.steps⟩ = _ at hlook
  obtain ⟨y, hway, harr⟩ := comesTo_eq_ok_iff.1 hlook
  rw [harr.eq_of_held rfl (by simp)] at hway
  have hheld : fs.get? dir = some (.directory mode) := harr.entry_eq.symm
  have hway' := Relation.ReflTransGen.mono (fun _ _ => Advances.of_keeps keeps) _ _ hway
  have hstart : fs'.start p = fs.start p := by simp [start, hwork]
  refine ⟨mode, slashed, ?_⟩
  change fs'.comesTo [] .object ⟨maxLinks, false, fs'.start p, p.route.steps⟩ = _
  rw [hstart, comesTo_eq_of_way hway', comesTo, walkLinks_nil, keeps _ _ hheld]

/-- What is no link is found under its name also by one who follows links. -/
theorem NamesDirectory.lookup_child_object {e : Entry} (h : fs.NamesDirectory p dir)
    (search : fs.Searchable dir) (hshort : ¬ maxNameSize < n.utf8ByteSize)
    (held : fs.get? (n :: dir) = some e) (noLink : ∀ target, e ≠ .link target) :
    fs.lookup [] fs.workDir (p.child n).route .object = .ok ⟨n :: dir, some e, false⟩ := by
  obtain ⟨links, hlook⟩ := h.exists_lookup_child n
  have hstep : Advances fs [] .object ⟨links, false, dir, [.name n]⟩ ⟨links, false, n :: dir, []⟩ :=
    .name search ⟨by simp, hshort⟩ held noLink
  rw [hlook .object (by simp), hstep.comesTo_eq, comesTo, walkLinks_nil, held]

/-- Where the path of a name leads to, there is a directory to search, and the path without the
name names it. -/
theorem exists_of_lookup_child {t : Target}
    (h : fs.lookup [] fs.workDir (p.child n).route .entry = .ok t) :
    ∃ dir, fs.NamesDirectory p dir ∧ fs.Searchable dir ∧ ¬ maxNameSize < n.utf8ByteSize ∧
      t = ⟨n :: dir, fs.get? (n :: dir), false⟩ := by
  rw [FileSystem.lookup_child] at h
  rcases hdir : fs.lookup [] fs.workDir p.route .object with o | d
  · rw [hdir] at h
    cases h
  rw [hdir] at h
  change fs.comesTo [] .entry ⟨0, false, d.place, [.name n]⟩ = .ok t at h
  by_cases search : fs.Searchable d.place
  · refine ⟨d.place, ?_, search, ?_⟩
    · obtain ⟨mode, hmode, -⟩ := search
      obtain ⟨place, entry, slashed⟩ := d
      obtain rfl : entry = some (.directory mode) := (get?_of_lookup hdir).symm.trans hmode
      exact ⟨mode, slashed, hdir⟩
    · by_cases hlong : maxNameSize < n.utf8ByteSize
      · rw [comesTo_name search, if_neg (by simp), if_pos hlong] at h
        cases h
      · rw [comesTo_child search hlong] at h
        exact ⟨hlong, (Except.ok.inj h).symm⟩
  · rw [comesTo_of_not_searchable search] at h
    cases h

/-- What the path of a name names is there under the name. -/
theorem NamesDirectory.of_child {inner : Place} (h : fs.NamesDirectory (p.child n) inner) :
    ∃ dir e, fs.NamesDirectory p dir ∧ fs.get? (n :: dir) = some e := by
  obtain ⟨mode, slashed, hlook⟩ := h
  obtain ⟨t, e, ht, he⟩ := exists_comesTo_entry
    (x := ⟨maxLinks, (p.child n).route.slashed, fs.start (p.child n), (p.child n).route.steps⟩)
    hlook rfl
  obtain ⟨dir, hnames, -, -, rfl⟩ := exists_of_lookup_child ht
  exact ⟨dir, e, hnames, he⟩

/-- In a directory that a path names, a name is found, or something hinders it. -/
theorem NamesDirectory.lookup_child_cases (h : fs.NamesDirectory p dir) (n : String) :
    (fs.Searchable dir ∧ ¬ maxNameSize < n.utf8ByteSize ∧
        fs.lookup [] fs.workDir (p.child n).route .entry =
          .ok ⟨n :: dir, fs.get? (n :: dir), false⟩) ∨
      ∃ o, (o = .denied ∨ o = .nameTooLong) ∧
        fs.lookup [] fs.workDir (p.child n).route .entry = .error o := by
  rw [h.lookup_child]
  by_cases search : fs.Searchable dir
  · by_cases hlong : maxNameSize < n.utf8ByteSize
    · refine .inr ⟨.nameTooLong, .inr rfl, ?_⟩
      rw [comesTo_name search, if_neg (by simp), if_pos hlong]
    · exact .inl ⟨search, hlong, comesTo_child search hlong⟩
  · obtain ⟨mode, hmode⟩ := h.held
    refine .inr ⟨.denied, .inl rfl, ?_⟩
    rw [comesTo_of_not_searchable search, hmode]
    rfl

end Child

section Operations

variable {fs fs' : FileSystem} {p : Path} {dir : Place} {n : String} {mode : Nat} {goal : Goal}

theorem locateNamed_of_askable (h : p.Askable) (files : List String) :
    fs.locateNamed files p.text p.route goal =
      (fs.lookup [] fs.workDir p.route goal).mapError (·.failure files) := by
  unfold locateNamed
  rw [if_neg (Bool.eq_false_iff.1 h.1), if_neg (by have := h.2; omega)]

theorem locate_of_askable (h : p.Askable) :
    fs.locate p.text p.route goal =
      (fs.lookup [] fs.workDir p.route goal).mapError (·.failure [p.text]) :=
  locateNamed_of_askable h [p.text]

theorem askable_of_locateNamed {files : List String} {t : Target}
    (h : fs.locateNamed files p.text p.route goal = .ok t) : p.Askable := by
  unfold locateNamed at h
  split_ifs at h with hnul hlong
  exact ⟨by simpa using hnul, by omega⟩

theorem askable_of_entryAt {e : Entry} (h : fs.entryAt p goal = .ok e) : p.Askable := by
  unfold entryAt find at h
  rcases hlocate : fs.locate p.text p.route goal with o | t
  · rw [hlocate] at h
    cases h
  · exact askable_of_locateNamed hlocate

/-- What is found in the directory of a path is the entry of the name there. -/
theorem exists_of_entryAt {e : Entry} (h : fs.entryAt (p.child n) .entry = .ok e) :
    ∃ dir, fs.NamesDirectory p dir ∧ fs.Searchable dir ∧ fs.get? (n :: dir) = some e := by
  obtain ⟨t, ht, he⟩ := exists_lookup_of_entryAt h
  obtain ⟨dir, hnames, search, -, rfl⟩ := exists_of_lookup_child ht
  exact ⟨dir, hnames, search, he⟩

theorem NamesDirectory.entryAt_child {e : Entry} (h : fs.NamesDirectory p dir)
    (search : fs.Searchable dir) (hshort : ¬ maxNameSize < n.utf8ByteSize)
    (hask : (p.child n).Askable) (held : fs.get? (n :: dir) = some e) :
    fs.entryAt (p.child n) .entry = .ok e := by
  unfold entryAt find
  rw [locate_of_askable hask, h.lookup_child, comesTo_child search hshort, held]
  rfl

/-- There is no file that is not empty where a path names a directory. -/
theorem NamesDirectory.isNonEmptyFile_eq {e : Entry} (h : fs.NamesDirectory p dir)
    (he : fs.entryAt p .entry = .ok e) : e.isNonEmptyFile = false := by
  obtain ⟨mode, slashed, hlook⟩ := h
  obtain ⟨t, ht, hentry⟩ := exists_lookup_of_entryAt he
  obtain ⟨t', e', ht', he', hcases⟩ := exists_comesTo_entry_eq
    (x := ⟨maxLinks, p.route.slashed, fs.start p, p.route.steps⟩) hlook rfl
  obtain rfl := Except.ok.inj (ht.symm.trans ht')
  obtain rfl := Option.some.inj (hentry.symm.trans he')
  rcases hcases with rfl | ⟨target, rfl⟩
  · rfl
  · rfl

theorem exists_of_makeDirectory (h : fs.makeDirectory (p.child n) mode = .ok fs') :
    ∃ dir, fs.NamesDirectory p dir ∧ fs.Searchable dir ∧ ¬ maxNameSize < n.utf8ByteSize ∧
      fs.get? (n :: dir) = none ∧ (p.child n).Askable ∧
      fs' = fs.insert (n :: dir) (.directory (inheritedMode (fs.get? dir) mode)) := by
  unfold makeDirectory makeDirectoryAt at h
  rcases hlocate : fs.locate (p.child n).text (p.child n).route .entry with e | t
  · rw [hlocate] at h
    cases h
  obtain ⟨dir, hnames, search, hshort, rfl⟩ :=
    exists_of_lookup_child (lookup_of_locateNamed hlocate)
  simp only [hlocate, bind, Except.bind, List.tail_cons] at h
  rcases hfree : fs.get? (n :: dir) with _ | e
  · by_cases writable : fs.permits dir .write = true
    · simp only [hfree, writable, Bool.not_true, Bool.false_eq_true, if_false] at h
      exact ⟨dir, hnames, search, hshort, hfree, askable_of_locateNamed hlocate,
        (Except.ok.inj h).symm⟩
    · simp only [hfree, writable, Bool.not_false, if_true] at h
      cases h
  · rw [hfree] at h
    cases h

theorem exists_of_makeLink {target : String} (h : fs.makeLink target (p.child n) = .ok fs') :
    ∃ dir, fs.NamesDirectory p dir ∧ fs.Searchable dir ∧ fs.get? (n :: dir) = none ∧
      fs.permits dir .write = true ∧ (p.child n).Askable ∧
      fs' = fs.insert (n :: dir) (.link target) := by
  unfold makeLink makeLinkAt at h
  dsimp only at h
  split_ifs at h
  rcases hlocate : fs.locateNamed [target, (p.child n).text] (p.child n).text (p.child n).route
    .entry with e | t
  · rw [hlocate] at h
    cases h
  obtain ⟨dir, hnames, search, -, rfl⟩ := exists_of_lookup_child (lookup_of_locateNamed hlocate)
  simp only [hlocate, bind, Except.bind, List.tail_cons] at h
  rcases hfree : fs.get? (n :: dir) with _ | e
  · by_cases writable : fs.permits dir .write = true
    · simp only [hfree, writable, Bool.not_true, Bool.false_eq_true, if_false] at h
      exact ⟨dir, hnames, search, hfree, writable, askable_of_locateNamed hlocate,
        (Except.ok.inj h).symm⟩
    · simp only [hfree, writable, Bool.not_false, if_true] at h
      cases h
  · rw [hfree] at h
    cases h

theorem getLast?_route_child (p : Path) (n : String) :
    (p.child n).route.steps.getLast? = some (.name n) := by
  simp [Path.route, Path.child, Path.join]

theorem exists_of_unlink (h : fs.unlink (p.child n) = .ok fs') :
    ∃ dir e, fs.NamesDirectory p dir ∧ fs.Searchable dir ∧ fs.get? (n :: dir) = some e ∧
      e.isDirectory = false ∧ fs.permits dir .write = true ∧ fs' = fs.erase (n :: dir) := by
  unfold unlink unlinkAt at h
  rcases hlocate : fs.locate (p.child n).text (p.child n).route .entry with e | t
  · rw [hlocate] at h
    cases h
  obtain ⟨dir, hnames, search, -, rfl⟩ := exists_of_lookup_child (lookup_of_locateNamed hlocate)
  simp only [hlocate, bind, Except.bind, List.tail_cons, getLast?_route_child] at h
  rcases hheld : fs.get? (n :: dir) with _ | e
  · rw [hheld] at h
    cases h
  simp only [hheld, Target.held, Bool.false_and, Bool.false_eq_true, if_false, Bool.true_and,
    Bool.not_false] at h
  by_cases writable : fs.permits dir .write = true
  · simp only [writable, Bool.not_true, Bool.false_eq_true, if_false] at h
    by_cases hdir : e.isDirectory = true
    · rw [if_pos hdir] at h
      cases h
    · rw [if_neg hdir] at h
      exact ⟨dir, e, hnames, search, hheld, by simpa using hdir, writable,
        (Except.ok.inj h).symm⟩
  · simp only [writable, Bool.not_false, if_true] at h
    cases h

/-- In a directory that is there nothing is missing for another one to be made. -/
theorem NamesDirectory.not_isMissing (h : fs.NamesDirectory p dir) {e : Failure}
    (he : fs.makeDirectory (p.child n) mode = .error e) : e.isMissing = false := by
  unfold makeDirectory makeDirectoryAt locate locateNamed at he
  split_ifs at he
  · cases he
    rfl
  · cases he
    rfl
  rcases h.lookup_child_cases n with ⟨-, -, hlook⟩ | ⟨o, ho, hlook⟩
  · rw [hlook] at he
    simp only [Except.mapError, bind, Except.bind, List.tail_cons] at he
    rcases hfree : fs.get? (n :: dir) with _ | old
    · by_cases writable : fs.permits dir .write = true
      · simp only [hfree, writable, Bool.not_true, Bool.false_eq_true, if_false] at he
        cases he
      · simp only [hfree, writable, Bool.not_false, if_true] at he
        cases he
        rfl
    · rw [hfree] at he
      cases he
      rfl
  · rw [hlook] at he
    cases he
    rcases ho with rfl | rfl
    · rfl
    · rfl

/-- What is there already cannot be made, and not for want of what it is in. -/
theorem NamesDirectory.exists_makeDirectory_self (h : fs.NamesDirectory p dir) (mode : Nat) :
    ∃ e : Failure, e.isMissing = false ∧ fs.makeDirectory p mode = .error e := by
  obtain ⟨m, slashed, hlook⟩ := h
  obtain ⟨t, e, ht, he⟩ := exists_comesTo_entry
    (x := ⟨maxLinks, p.route.slashed, fs.start p, p.route.steps⟩) hlook rfl
  have ht : fs.lookup [] fs.workDir p.route .entry = .ok t := ht
  unfold makeDirectory makeDirectoryAt locate locateNamed
  split_ifs
  · exact ⟨_, rfl, rfl⟩
  · exact ⟨_, rfl, rfl⟩
  · rw [ht]
    simp only [Except.mapError, bind, Except.bind, he]
    exact ⟨_, rfl, rfl⟩

/-- Where nothing but a hindrance can be in the way, a directory is made. -/
theorem NamesDirectory.makeDirectory_cases (h : fs.NamesDirectory p dir)
    (search : fs.Searchable dir) (writable : fs.permits dir .write = true)
    (free : fs.get? (n :: dir) = none) (hask : (p.child n).Askable) (mode : Nat) :
    (¬ maxNameSize < n.utf8ByteSize ∧ fs.makeDirectory (p.child n) mode =
        .ok (fs.insert (n :: dir) (.directory (inheritedMode (fs.get? dir) mode)))) ∨
      maxNameSize < n.utf8ByteSize ∧ fs.makeDirectory (p.child n) mode =
        .error (Obstacle.nameTooLong.failure [(p.child n).text]) := by
  unfold makeDirectory makeDirectoryAt
  rw [locate_of_askable hask, h.lookup_child]
  by_cases hlong : maxNameSize < n.utf8ByteSize
  · refine .inr ⟨hlong, ?_⟩
    rw [comesTo_name search, if_neg (by simp), if_pos hlong]
    rfl
  · refine .inl ⟨hlong, ?_⟩
    rw [comesTo_child search hlong, free]
    simp only [Except.mapError, bind, Except.bind, List.tail_cons, writable]
    rfl

theorem NamesDirectory.unlink_eq {e : Entry} (h : fs.NamesDirectory p dir)
    (search : fs.Searchable dir) (hshort : ¬ maxNameSize < n.utf8ByteSize)
    (hask : (p.child n).Askable) (held : fs.get? (n :: dir) = some e)
    (hfile : e.isDirectory = false) (writable : fs.permits dir .write = true) :
    fs.unlink (p.child n) = .ok (fs.erase (n :: dir)) := by
  unfold unlink unlinkAt
  rw [locate_of_askable hask, h.lookup_child, comesTo_child search hshort, held]
  simp only [Except.mapError, bind, Except.bind, List.tail_cons, getLast?_route_child, Target.held,
    Bool.false_and, Bool.false_eq_true, if_false, writable, Bool.not_true, Bool.and_false, hfile]

/-- What a link may say: some text that is not too long and has no zero character. -/
def IsLinkText (target : String) : Prop :=
  target.toList.contains '\x00' = false ∧ target.isEmpty = false ∧
    target.utf8ByteSize < maxPathSize

theorem NamesDirectory.makeLink_eq {target : String} (h : fs.NamesDirectory p dir)
    (search : fs.Searchable dir) (hshort : ¬ maxNameSize < n.utf8ByteSize)
    (hask : (p.child n).Askable) (free : fs.get? (n :: dir) = none)
    (writable : fs.permits dir .write = true) (htarget : IsLinkText target) :
    fs.makeLink target (p.child n) = .ok (fs.insert (n :: dir) (.link target)) := by
  obtain ⟨hnul, hempty, hsize⟩ := htarget
  unfold makeLink makeLinkAt
  simp only [hnul, hask.1, hempty, Bool.or_self, Bool.false_eq_true, if_false]
  rw [if_neg (by omega), locateNamed_of_askable hask, h.lookup_child, comesTo_child search hshort,
    free]
  simp only [Except.mapError, bind, Except.bind, List.tail_cons, writable, Bool.not_true,
    Bool.false_eq_true, if_false]

theorem makeLink_of_lookup_error {target : String} {o : Obstacle} (hask : p.Askable)
    (h : fs.lookup [] fs.workDir p.route .entry = .error o) (htarget : IsLinkText target) :
    fs.makeLink target p = .error (o.failure [target, p.text]) := by
  obtain ⟨hnul, hempty, hsize⟩ := htarget
  unfold makeLink makeLinkAt
  simp only [hnul, hask.1, hempty, Bool.or_self, Bool.false_eq_true, if_false]
  rw [if_neg (by omega), locateNamed_of_askable hask, h]
  rfl

/-- Only of a path that can be asked for something is found missing. -/
theorem askable_of_isMissing {e : Failure} (h : fs.makeDirectory p mode = .error e)
    (he : e.isMissing = true) : p.Askable := by
  unfold makeDirectory makeDirectoryAt locate locateNamed at h
  split_ifs at h with hnul hlong
  · cases h
    cases he
  · cases h
    cases he
  · exact ⟨by simpa using hnul, by omega⟩

end Operations

end FileSystem

end GuestImage
