import GuestImage.Proofs.Directories

/-!
# How paths are spelled

A text is read at its slashes, so a name in it has no slash and no character that is not in the text
(`mem_of_mem_splitSlash`). What a path comes to as a text ends in its last name
(`Path.exists_text_concat`), so a path in normal form that is not a top does not end in a slash, and
what the system is asked for when an entry is to be made is the path of the entry, or longer
(`Path.askable_child`).
-/

namespace GuestImage

theorem mem_of_mem_splitSlash {c : Char} :
    ∀ {l cs : List Char}, cs ∈ splitSlash l → c ∈ cs → c ∈ l ∧ c ≠ '/'
  | [], cs, h, hc => by
    obtain rfl := List.mem_singleton.1 h
    cases hc
  | d :: rest, cs, h, hc => by
    rw [splitSlash] at h
    split at h
    · rcases List.mem_cons.1 h with rfl | h
      · cases hc
      · exact (mem_of_mem_splitSlash h hc).imp_left (List.mem_cons_of_mem _)
    · rename_i hd
      split at h
      · obtain rfl := List.mem_singleton.1 h
        obtain rfl := List.mem_singleton.1 hc
        exact ⟨List.mem_cons_self .., hd⟩
      · rename_i first more hrest
        have hmem : ∀ ds ∈ first :: more, c ∈ ds → c ∈ d :: rest ∧ c ≠ '/' := fun ds hds hc =>
          (mem_of_mem_splitSlash (hrest ▸ hds) hc).imp_left (List.mem_cons_of_mem _)
        rcases List.mem_cons.1 h with rfl | h
        · rcases List.mem_cons.1 hc with rfl | hc
          · exact ⟨List.mem_cons_self .., hd⟩
          · exact hmem first (List.mem_cons_self ..) hc
        · exact hmem cs (List.mem_cons_of_mem _ h) hc

theorem Step.text_ofText (s : String) : (Step.ofText s).text = s := by
  unfold ofText
  split_ifs with hhere hup
  · exact hhere.symm
  · exact hup.symm
  · rfl

/-- The names in a text have no more characters than the text. -/
theorem mem_of_mem_steps {text n : String} {c : Char} (h : .name n ∈ (Path.ofText text).steps)
    (hc : c ∈ n.toList) : c ∈ text.toList := by
  obtain ⟨cs, hcs, hn⟩ := List.mem_map.1 (List.mem_filter.1 h).1
  have htext : String.ofList cs = n := by rw [← Step.text_ofText (.ofList cs), hn]; rfl
  rw [← htext, String.toList_ofList] at hc
  exact (mem_of_mem_splitSlash (List.mem_filter.1 hcs).1 hc).1

/-- The text of a path ends in the text of its last step. -/
theorem Path.exists_text_concat (anchor : Anchor) (steps : List Step) (last : Step) :
    ∃ s, (⟨anchor, steps ++ [last]⟩ : Path).text = s ++ last.text := by
  have htext : (⟨anchor, steps ++ [last]⟩ : Path).text =
      anchor.text ++ "/".intercalate (steps.map Step.text ++ [last.text]) := by
    simp [Path.text]
  rw [htext]
  by_cases hsteps : steps.map Step.text = []
  · exact ⟨anchor.text, by rw [hsteps]; simp⟩
  · rw [intercalate_concat _ hsteps, ← String.append_assoc]
    exact ⟨_, rfl⟩

/-- A path in normal form ends in a slash only where it has no steps. -/
theorem Path.exists_getLast?_text_ofText {text : String} (h : (Path.ofText text).steps ≠ []) :
    ∃ c, (Path.ofText text).text.toList.getLast? = some c ∧ c ≠ '/' := by
  obtain ⟨steps, last, hsteps⟩ := (List.eq_nil_or_concat _).resolve_left h
  obtain ⟨cs, hcs, rfl⟩ : ∃ cs ∈ (splitSlash text.toList).filter (!·.isEmpty),
      Step.ofText (String.ofList cs) = last := by
    have hmem : last ∈ (Path.ofText text).steps := by simp [hsteps]
    exact List.mem_map.1 (List.mem_filter.1 hmem).1
  obtain ⟨hsplit, hne⟩ := List.mem_filter.1 hcs
  obtain ⟨s, hs⟩ := exists_text_concat (Path.ofText text).anchor steps (.ofText (.ofList cs))
  rw [List.concat_eq_append] at hsteps
  rw [← hsteps, Step.text_ofText] at hs
  change (Path.ofText text).text = _ at hs
  rw [hs, String.toList_append, String.toList_ofList, List.getLast?_append,
    List.getLast?_eq_some_getLast (by simpa using hne), Option.some_or]
  exact ⟨_, rfl, (mem_of_mem_splitSlash hsplit (List.getLast_mem _)).2⟩

/-- What is handed to the system to make an entry in the directory of a path is not shorter than
the path of the entry. -/
theorem Path.askable_child {text n : String} (hn : n.toList.head? ≠ some '/')
    (hnul : (Path.joinText (Path.ofText text).text n).toList.contains '\x00' = false)
    (hsize : (Path.joinText (Path.ofText text).text n).utf8ByteSize < FileSystem.maxPathSize) :
    ((Path.ofText text).child n).Askable := by
  obtain ⟨s, hs⟩ : ∃ s, Path.joinText (Path.ofText text).text n =
      s ++ ((Path.ofText text).child n).text := by
    rw [joinText, if_neg hn, text_child]
    by_cases hsteps : (Path.ofText text).steps = []
    · rw [if_pos hsteps]
      generalize Path.ofText text = dir at hsteps
      obtain ⟨anchor, steps⟩ := dir
      obtain rfl : steps = [] := hsteps
      cases anchor with
      | relative => exact ⟨"./", by simp [Path.text, Anchor.text]⟩
      | top => exact ⟨"", by simp [Path.text, Anchor.text]⟩
      | doubleTop => exact ⟨"", by simp [Path.text, Anchor.text]⟩
    · obtain ⟨c, hlast, hc⟩ := exists_getLast?_text_ofText hsteps
      have hne : (Path.ofText text).text.isEmpty = false := by
        rw [← Bool.not_eq_true, String.isEmpty_iff]
        intro hempty
        rw [hempty] at hlast
        cases hlast
      rw [if_neg hsteps, hne, hlast, if_neg (by simpa using hc)]
      exact ⟨"", by simp⟩
  rw [hs, String.toList_append, List.contains_append, Bool.or_eq_false_iff] at hnul
  rw [hs, String.utf8ByteSize_append] at hsize
  exact ⟨hnul.2, by omega⟩

end GuestImage
