import GuestImage.Report.TrailingNumber
import Mathlib.Data.List.TakeWhile

/-!
# The last token of a report

The characters of a text that are no separators make up runs, and its last token is the last of them
(`isLastRun_iff`), that is, the last piece which is left of it between separators
(`getLast?_tokens_eq_some_iff`). A text says a number exactly if that run is made of digits: then it
is some text, the digits, and nothing but separators after them (`read_language`). What comes before
the last run does not matter.
-/

namespace GuestImage

/-- A run of digits. -/
def Decimal.IsNumeral (ds : List Char) : Prop :=
  ds ≠ [] ∧ ∀ c ∈ ds, c.isDigit = true

theorem Decimal.isNumeral_iff {ds : List Char} :
    IsNumeral ds ↔ ds.isEmpty = false ∧ ds.all Char.isDigit = true := by
  rw [IsNumeral, List.isEmpty_eq_false_iff, List.all_eq_true]

instance : DecidablePred Decimal.IsNumeral :=
  fun _ => decidable_of_iff _ Decimal.isNumeral_iff.symm

/-- What is dropped of a list ends where something stands that is to be kept. -/
theorem dropWhile_append_of_head? {α : Type} {p : α → Bool} {dropped kept : List α}
    (hdropped : ∀ a ∈ dropped, p a = true) (hkept : ∀ a ∈ kept.head?, p a = false) :
    (dropped ++ kept).dropWhile p = kept := by
  rw [List.dropWhile_append_of_pos hdropped]
  rcases kept with _ | ⟨a, rest⟩
  · rfl
  · exact List.dropWhile_cons_of_neg (by simp [hkept a rfl])

namespace TrailingNumber

/-- No token goes on after a text: it is empty, or ends in a separator. -/
def EndsApart (before : List Char) : Prop :=
  ∀ c ∈ before.getLast?, isSeparator c = true

/-- A run of characters in a text, between what no token goes on after and separators to the end. -/
structure IsLastRun (run s : List Char) : Prop where
  ne_nil : run ≠ []
  unseparated : ∀ c ∈ run, isSeparator c = false
  placed : ∃ before after, s = before ++ run ++ after ∧ EndsApart before ∧
    ∀ c ∈ after, isSeparator c = true

/-- A text says a number at its end, in digits before which no token goes on, with nothing but
separators after them. -/
def Says (s : List Char) (n : Nat) : Prop :=
  ∃ before ds after, s = before ++ ds ++ after ∧ EndsApart before ∧ Decimal.IsNumeral ds ∧
    Decimal.value ds = n ∧ ∀ c ∈ after, isSeparator c = true

/-- The outcome is the failure to parse a text, some of which is shown. -/
def Unparsed (outcome : Except Failure Nat) : Prop :=
  ∃ message hint shown,
    outcome = .error (.ofStage .parse message hint [("operation", "parse"), ("output", shown)])

/-- The tokens of a text: what is left between separators. -/
def tokens (s : List Char) : List (List Char) :=
  (s.splitOnP isSeparator).filter (!·.isEmpty)

section Runs

variable {s before run after : List Char}

theorem endsApart_nil : EndsApart [] := nofun

theorem takeWhile_reverse_of_endsApart (h : EndsApart before) :
    before.reverse.takeWhile (!isSeparator ·) = [] := by
  rcases List.eq_nil_or_concat before with rfl | ⟨rest, c, rfl⟩
  · rfl
  · have hc : isSeparator c = true := h c (by simp)
    simp [hc]

theorem endsApart_of_dropWhile (s : List Char) :
    EndsApart (s.dropWhile (!isSeparator ·)).reverse := by
  intro c hc
  rw [List.getLast?_reverse] at hc
  have := List.head?_dropWhile_not (!isSeparator ·) s
  rw [hc] at this
  simpa using this

theorem lastToken_append (hne : run ≠ []) (hrun : ∀ c ∈ run, isSeparator c = false)
    (hbefore : EndsApart before) (hafter : ∀ c ∈ after, isSeparator c = true) :
    lastToken (before ++ run ++ after) = run := by
  have hhead : ∀ c ∈ (run.reverse ++ before.reverse).head?, isSeparator c = false := by
    obtain ⟨d, rest, hrest⟩ := List.exists_cons_of_ne_nil (mt List.reverse_eq_nil_iff.1 hne)
    rintro c hc
    rw [hrest] at hc
    obtain rfl := Option.some.inj hc
    exact hrun d (List.mem_reverse.1 (hrest ▸ List.mem_cons_self ..))
  have htake : (run.reverse ++ before.reverse).takeWhile (!isSeparator ·) = run.reverse := by
    rw [List.takeWhile_append_of_pos (by simpa using hrun), takeWhile_reverse_of_endsApart hbefore,
      List.append_nil]
  rw [lastToken, List.reverse_append, List.reverse_append,
    dropWhile_append_of_head? (by simpa using hafter) hhead, htake, List.reverse_reverse]

/-- Every text is one that no token goes on after, its last token, and separators to the end. -/
theorem exists_lastToken (s : List Char) :
    ∃ before after, s = before ++ lastToken s ++ after ∧ EndsApart before ∧
      (∀ c ∈ lastToken s, isSeparator c = false) ∧ ∀ c ∈ after, isSeparator c = true := by
  obtain ⟨r, hr⟩ : ∃ r, s.reverse.dropWhile isSeparator = r := ⟨_, rfl⟩
  refine ⟨(r.dropWhile (!isSeparator ·)).reverse, (s.reverse.takeWhile isSeparator).reverse, ?_,
    endsApart_of_dropWhile r, ?_, ?_⟩
  · rw [lastToken, hr, ← List.reverse_append, List.takeWhile_append_dropWhile, ← hr,
      ← List.reverse_append, List.takeWhile_append_dropWhile, List.reverse_reverse]
  · intro c hc
    rw [lastToken, List.mem_reverse] at hc
    simpa using List.all_eq_true.1 List.all_takeWhile c hc
  · intro c hc
    exact List.all_eq_true.1 List.all_takeWhile c (List.mem_reverse.1 hc)

theorem isLastRun_iff : IsLastRun run s ↔ run ≠ [] ∧ lastToken s = run := by
  constructor
  · rintro ⟨hne, hrun, before, after, rfl, hbefore, hafter⟩
    exact ⟨hne, lastToken_append hne hrun hbefore hafter⟩
  · rintro ⟨hne, rfl⟩
    obtain ⟨before, after, hs, hbefore, hrun, hafter⟩ := exists_lastToken s
    exact ⟨hne, hrun, before, after, hs, hbefore, hafter⟩

theorem tokens_eq_nil (h : ∀ c ∈ after, isSeparator c = true) : tokens after = [] := by
  induction after with
  | nil => rfl
  | cons c after ih =>
    have hsplit := List.splitOnP_append_cons (p := isSeparator) [] after (h c (by simp))
    rw [List.nil_append] at hsplit
    rw [tokens, hsplit, List.splitOnP_nil, List.filter_append]
    exact ih fun c hc => h c (List.mem_cons_of_mem _ hc)

theorem tokens_append (h : EndsApart before) (s : List Char) :
    tokens (before ++ s) = tokens before ++ tokens s := by
  rcases List.eq_nil_or_concat before with rfl | ⟨rest, c, rfl⟩
  · rfl
  · have hc : isSeparator c = true := h c (by simp)
    have hrest : tokens (rest ++ [c]) = tokens rest := by
      rw [tokens, List.splitOnP_append_cons rest [] hc, List.filter_append]
      exact List.append_nil _
    rw [List.concat_eq_append, hrest, List.append_assoc, tokens, List.singleton_append,
      List.splitOnP_append_cons rest s hc, List.filter_append]
    rfl

theorem tokens_run_append (hne : run ≠ []) (hrun : ∀ c ∈ run, isSeparator c = false)
    (hafter : ∀ c ∈ after, isSeparator c = true) : tokens (run ++ after) = [run] := by
  have hkept : (!run.isEmpty) = true := by simpa using hne
  rcases after with _ | ⟨c, rest⟩
  · rw [List.append_nil, tokens, List.splitOnP_eq_singleton hrun, List.filter_cons, if_pos hkept]
    rfl
  · have hc : isSeparator c = true := hafter c (by simp)
    have hrest : tokens rest = [] := tokens_eq_nil fun c hc => hafter c (List.mem_cons_of_mem _ hc)
    rw [tokens, List.splitOnP_append_cons_of_forall_mem hrun c hc, List.filter_cons, if_pos hkept]
    exact congrArg (run :: ·) hrest

theorem lastToken_eq_nil_iff : lastToken s = [] ↔ ∀ c ∈ s, isSeparator c = true := by
  constructor
  · intro h
    have hdrop : s.reverse.dropWhile isSeparator = [] := by
      rw [lastToken, List.reverse_eq_nil_iff] at h
      rcases hr : s.reverse.dropWhile isSeparator with _ | ⟨c, rest⟩
      · rfl
      · have hc := List.head?_dropWhile_not isSeparator s.reverse
        rw [hr] at h hc
        rw [List.takeWhile_cons_of_pos (by simpa using hc)] at h
        cases h
    exact fun c hc => List.dropWhile_eq_nil_iff.1 hdrop c (List.mem_reverse.2 hc)
  · intro h
    rw [lastToken, List.dropWhile_eq_nil_iff.2 fun c hc => h c (List.mem_reverse.1 hc)]
    rfl

/-- The last token of a text is the last of its tokens. -/
theorem getLast?_tokens_eq_some_iff :
    (tokens s).getLast? = some run ↔ run ≠ [] ∧ lastToken s = run := by
  by_cases hempty : lastToken s = []
  · rw [tokens_eq_nil (lastToken_eq_nil_iff.1 hempty), hempty]
    exact iff_of_false nofun fun h => h.1 h.2.symm
  · obtain ⟨before, after, hs, hbefore, hrun, hafter⟩ := exists_lastToken s
    have htokens : tokens s = tokens before ++ [lastToken s] := by
      conv => lhs; rw [hs, List.append_assoc, tokens_append hbefore,
        tokens_run_append hempty hrun hafter]
    rw [htokens, List.getLast?_concat, Option.some_inj]
    exact ⟨fun h => ⟨h ▸ hempty, h⟩, fun h => h.2⟩

end Runs

section Numbers

variable {s : List Char} {text : String} {n : Nat}

/-- No digit is a blank or a punctuation character. -/
theorem isSeparator_of_isDigit {c : Char} (h : c.isDigit = true) : isSeparator c = false := by
  have hranges : ∀ n < 58, 48 ≤ n →
      (Text.inRanges n Text.blankRanges || Text.inRanges n Text.punctuationRanges) = false := by
    decide
  simp only [Char.isDigit, Bool.and_eq_true, decide_eq_true_eq] at h
  exact hranges c.toNat (Nat.lt_succ_of_le h.2) h.1

theorem lastToken_of_isDigit (h : ∀ c ∈ s, c.isDigit = true) : lastToken s = s := by
  rcases eq_or_ne s [] with rfl | hne
  · rfl
  · have htoken := @lastToken_append [] s [] hne (fun c hc => isSeparator_of_isDigit (h c hc))
      endsApart_nil (by simp)
    rwa [List.nil_append, List.append_nil] at htoken

theorem says_iff :
    Says s n ↔ Decimal.IsNumeral (lastToken s) ∧ Decimal.value (lastToken s) = n := by
  constructor
  · rintro ⟨before, ds, after, rfl, hbefore, ⟨hne, hdigits⟩, hvalue, hafter⟩
    rw [lastToken_append hne (fun c hc => isSeparator_of_isDigit (hdigits c hc)) hbefore hafter]
    exact ⟨⟨hne, hdigits⟩, hvalue⟩
  · rintro ⟨hdigits, hvalue⟩
    obtain ⟨before, after, hs, hbefore, -, hafter⟩ := exists_lastToken s
    exact ⟨before, _, after, hs, hbefore, hdigits, hvalue, hafter⟩

theorem read_of_isNumeral (h : Decimal.IsNumeral (lastToken text.toList)) :
    read text =
      if (lastToken text.toList).length ≤ Decimal.maxDigits then
        .ok (Decimal.value (lastToken text.toList))
      else .error ⟨.badValue (Decimal.tooLongToRead (lastToken text.toList).length), []⟩ := by
  obtain ⟨hempty, hdigits⟩ := Decimal.isNumeral_iff.1 h
  simp only [read, hempty, hdigits, Bool.not_true, Bool.false_eq_true, if_false, Decimal.value?]
  split_ifs <;> rfl

theorem unparsed_read (h : ¬Decimal.IsNumeral (lastToken text.toList)) : Unparsed (read text) := by
  unfold read
  dsimp only
  by_cases hempty : (lastToken text.toList).isEmpty = true
  · exact ⟨_, _, _, if_pos hempty⟩
  by_cases hdigits : (lastToken text.toList).all Char.isDigit = true
  · exact absurd (Decimal.isNumeral_iff.2 ⟨Bool.not_eq_true _ ▸ hempty, hdigits⟩) h
  · rw [Bool.not_eq_true] at hdigits
    exact ⟨_, _, _, by rw [if_neg hempty, hdigits]; rfl⟩

theorem read_eq_ok_iff :
    read text = .ok n ↔
      Says text.toList n ∧ (lastToken text.toList).length ≤ Decimal.maxDigits := by
  rw [says_iff]
  by_cases h : Decimal.IsNumeral (lastToken text.toList)
  · rw [read_of_isNumeral h]
    split_ifs with hshort <;> simp [h, hshort]
  · obtain ⟨message, hint, shown, hread⟩ := unparsed_read h
    simp [hread, h]

end Numbers

/-- A text of which the last run is not too long is read as the number that it says, and fails to
parse where it says none. So only the last run counts, and the text of a number is read as that
number. -/
theorem read_language {text : String}
    (short : ∀ run, IsLastRun run text.toList → run.length ≤ Decimal.maxDigits) :
    (∀ n, read text = .ok n ↔ Says text.toList n) ∧
      ((∀ n, ¬Says text.toList n) → Unparsed (read text)) ∧
      (∀ other : String, (∀ run, IsLastRun run other.toList ↔ IsLastRun run text.toList) →
        ∀ n, read other = .ok n ↔ read text = .ok n) ∧
      ∀ (n : Nat) (written : String), Decimal.text? n = some written → read written = .ok n := by
  have hlength : (lastToken text.toList).length ≤ Decimal.maxDigits := by
    by_cases hempty : lastToken text.toList = []
    · simp [hempty]
    · exact short _ (isLastRun_iff.2 ⟨hempty, rfl⟩)
  refine ⟨fun n => ?_, fun hnone => ?_, fun other hsame n => ?_, fun n written hwritten => ?_⟩
  · rw [read_eq_ok_iff, and_iff_left hlength]
  · exact unparsed_read fun hnumeral => hnone _ (says_iff.2 ⟨hnumeral, rfl⟩)
  · simp only [isLastRun_iff] at hsame
    have htoken : lastToken other.toList = lastToken text.toList := by
      by_cases hempty : lastToken other.toList = []
      · by_contra hne
        exact hne ((hsame _).2 ⟨fun h => hne (hempty.trans h.symm), rfl⟩).2
      · exact ((hsame _).1 ⟨hempty, rfl⟩).2.symm
    rw [read_eq_ok_iff, read_eq_ok_iff, says_iff, says_iff, htoken]
  · have hdigits : ∀ c ∈ Decimal.digits n, c.isDigit = true :=
      fun c hc => Decimal.isDigit_of_mem_digits hc
    unfold Decimal.text? at hwritten
    split_ifs at hwritten with hshort
    obtain rfl := Option.some.inj hwritten
    have hlast : lastToken (String.ofList (Decimal.text n)).toList = Decimal.digits n := by
      rw [String.toList_ofList]
      exact lastToken_of_isDigit hdigits
    rw [read_eq_ok_iff, says_iff, hlast]
    exact ⟨⟨⟨Decimal.digits_ne_nil n, hdigits⟩, Decimal.value_digits n⟩, hshort⟩

/-- A report that ends in a full stop and a line end says its number, and one in which a letter goes
on into the digits says none. -/
theorem read_language_reports :
    let short (text : String) : Prop :=
      ∀ run, IsLastRun run text.toList → run.length ≤ Decimal.maxDigits
    (short "预计文件系统的最小尺寸：0061817。\n" ∧
        read "预计文件系统的最小尺寸：0061817。\n" = .ok 61817) ∧
      short "minimum: x5" ∧ Unparsed (read "minimum: x5") := by
  intro short
  have hshort : ∀ {text : String},
      (lastToken text.toList).length ≤ Decimal.maxDigits → short text := by
    intro text hlength run hrun
    exact (isLastRun_iff.1 hrun).2 ▸ hlength
  have hstop : short "预计文件系统的最小尺寸：0061817。\n" := hshort (by decide +kernel)
  have hletter : short "minimum: x5" := hshort (by decide +kernel)
  refine ⟨⟨hstop, ((read_language hstop).1 61817).2 (says_iff.2 ⟨?_, by decide +kernel⟩)⟩, hletter,
    (read_language hletter).2.1 fun n hsays => ?_⟩
  · decide +kernel
  · have hx : ¬Decimal.IsNumeral (lastToken "minimum: x5".toList) := by decide +kernel
    exact hx (says_iff.1 hsays).1

end TrailingNumber

end GuestImage
