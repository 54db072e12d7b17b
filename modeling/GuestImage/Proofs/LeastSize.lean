import GuestImage.Proofs.Sizes
import GuestImage.Proofs.Tokens

/-!
# The least size that an environment sets

The variable of the environment sets a least size in digits, after a plus sign that may be left out
and between blank characters (`Settings.Sets`). One from one to a hundred gibibytes is the floor of
the sizes that are planned; for anything else the floor is ten (`planSize_ofEnvironment`). No value
of the variable makes the planning fail.
-/

namespace GuestImage

variable {σ : Type}

namespace Text

section Trim

variable {s lead core trail : List Char}

/-- Every text is blank characters, what is left of it without them at both ends, and blank
characters again. -/
theorem exists_trim (s : String) :
    ∃ lead trail, s.toList = lead ++ (trim s).toList ++ trail ∧
      (∀ c ∈ lead, isBlank c = true) ∧ ∀ c ∈ trail, isBlank c = true := by
  refine ⟨s.toList.takeWhile isBlank,
    ((trimStart s.toList).reverse.takeWhile isBlank).reverse, ?_, ?_, ?_⟩
  · rw [trim, String.toList_ofList, trimEnd, List.append_assoc, ← List.reverse_append,
      List.takeWhile_append_dropWhile, List.reverse_reverse, trimStart,
      List.takeWhile_append_dropWhile]
  · exact fun c hc => List.all_eq_true.1 List.all_takeWhile c hc
  · exact fun c hc => List.all_eq_true.1 List.all_takeWhile c (List.mem_reverse.1 hc)

theorem trimEnd_trimStart_append (hne : core ≠ []) (hlead : ∀ c ∈ lead, isBlank c = true)
    (hcore : ∀ c ∈ core, isBlank c = false) (htrail : ∀ c ∈ trail, isBlank c = true) :
    trimEnd (trimStart (lead ++ core ++ trail)) = core := by
  have hstart : trimStart (lead ++ core ++ trail) = core ++ trail := by
    rw [trimStart, List.append_assoc]
    refine dropWhile_append_of_head? hlead fun c hc => ?_
    obtain ⟨d, rest, rfl⟩ := List.exists_cons_of_ne_nil hne
    exact Option.some.inj hc ▸ hcore d (List.mem_cons_self ..)
  have hend : (trail.reverse ++ core.reverse).dropWhile isBlank = core.reverse := by
    refine dropWhile_append_of_head? (by simpa using htrail) fun c hc => ?_
    exact hcore c (List.mem_of_getLast? (List.head?_reverse ▸ hc))
  rw [hstart, trimEnd, List.reverse_append, hend, List.reverse_reverse]

end Trim

end Text

namespace Settings

/-- A text sets a number: digits that are not too many to be converted, after a plus sign that may
be left out and between blank characters. -/
def Sets (s : List Char) (n : Nat) : Prop :=
  ∃ lead sign ds trail, s = lead ++ (sign ++ ds) ++ trail ∧ (∀ c ∈ lead, Text.isBlank c = true) ∧
    (∀ c ∈ trail, Text.isBlank c = true) ∧ (sign = [] ∨ sign = ['+']) ∧ Decimal.IsNumeral ds ∧
    ds.length ≤ Decimal.maxDigits ∧ Decimal.value ds = n

section Reading

variable {s ds : List Char} {n : Nat} {z : Int}

theorem unsign_of_isNumeral (h : Decimal.IsNumeral ds) : unsign ds = (false, ds) := by
  obtain ⟨hne, hdigits⟩ := h
  unfold unsign
  split
  · exact absurd (hdigits '+' (List.mem_cons_self ..)) (by decide)
  · exact absurd (hdigits '-' (List.mem_cons_self ..)) (by decide)
  · rfl

theorem eq_of_unsign (h : unsign s = (false, ds)) : s = ds ∨ s = '+' :: ds := by
  unfold unsign at h
  split at h
  · exact .inr (congrArg _ (Prod.mk.inj h).2)
  · exact nomatch (Prod.mk.inj h).1
  · exact .inl (Prod.mk.inj h).2

theorem readInt?_eq_some_iff :
    readInt? s = some z ↔ Decimal.IsNumeral (unsign s).2 ∧
      (unsign s).2.length ≤ Decimal.maxDigits ∧
      (if (unsign s).1 then -(Decimal.value (unsign s).2 : Int) else Decimal.value (unsign s).2) =
        z := by
  have hnumeral : ((unsign s).2.isEmpty || !(unsign s).2.all Char.isDigit) = false ↔
      Decimal.IsNumeral (unsign s).2 := by
    rw [Decimal.isNumeral_iff, Bool.or_eq_false_iff, Bool.not_eq_false']
  unfold readInt?
  dsimp only
  by_cases h : Decimal.IsNumeral (unsign s).2
  · by_cases hlength : (unsign s).2.length ≤ Decimal.maxDigits
    · simp [hnumeral.2 h, h, hlength, Decimal.value?]
    · simp [hnumeral.2 h, hlength, Decimal.value?]
  · have hnone : ((unsign s).2.isEmpty || !(unsign s).2.all Char.isDigit) = true := by
      rw [← Bool.not_eq_false]
      exact mt hnumeral.1 h
    rw [if_pos hnone]
    simp [h]

/-- A positive number is read from its digits, after a plus sign or none. -/
theorem readInt?_eq_natCast_iff (hpos : 1 ≤ n) :
    readInt? s = some (n : Int) ↔ ∃ sign ds, s = sign ++ ds ∧ (sign = [] ∨ sign = ['+']) ∧
      Decimal.IsNumeral ds ∧ ds.length ≤ Decimal.maxDigits ∧ Decimal.value ds = n := by
  rw [readInt?_eq_some_iff]
  constructor
  · rintro ⟨hnumeral, hlength, hvalue⟩
    have hplus : (unsign s).1 = false := by
      by_contra hminus
      rw [Bool.not_eq_false] at hminus
      rw [if_pos hminus] at hvalue
      omega
    rw [hplus] at hvalue
    rcases eq_of_unsign (Prod.ext hplus rfl) with hs | hs
    · exact ⟨[], _, hs, .inl rfl, hnumeral, hlength, Int.ofNat.inj hvalue⟩
    · exact ⟨['+'], _, hs, .inr rfl, hnumeral, hlength, Int.ofNat.inj hvalue⟩
  · rintro ⟨sign, ds, rfl, hsign, hnumeral, hlength, rfl⟩
    have hunsign : unsign (sign ++ ds) = (false, ds) := by
      rcases hsign with rfl | rfl
      · exact unsign_of_isNumeral hnumeral
      · rfl
    rw [hunsign]
    exact ⟨hnumeral, hlength, rfl⟩

theorem isBlank_of_isDigit {c : Char} (h : c.isDigit = true) : Text.isBlank c = false :=
  (Bool.or_eq_false_iff.1 (TrailingNumber.isSeparator_of_isDigit h)).1

/-- A text sets what is read of it without the blank characters around it. -/
theorem sets_iff (text : String) (hpos : 1 ≤ n) :
    Sets text.toList n ↔ readInt? (Text.trim text).toList = some (n : Int) := by
  rw [readInt?_eq_natCast_iff hpos]
  constructor
  · rintro ⟨lead, sign, ds, trail, htext, hlead, htrail, hsign, hnumeral, hlength, hvalue⟩
    refine ⟨sign, ds, ?_, hsign, hnumeral, hlength, hvalue⟩
    have hplus : ∀ c ∈ sign, Text.isBlank c = false := by
      rcases hsign with rfl | rfl
      · exact nofun
      · exact List.forall_mem_singleton.2 (by decide)
    rw [Text.trim, String.toList_ofList, htext]
    refine Text.trimEnd_trimStart_append (by simp [hnumeral.1]) hlead (fun c hc => ?_) htrail
    rcases List.mem_append.1 hc with hc | hc
    · exact hplus c hc
    · exact isBlank_of_isDigit (hnumeral.2 c hc)
  · rintro ⟨sign, ds, htrim, hsign, hnumeral, hlength, hvalue⟩
    obtain ⟨lead, trail, htext, hlead, htrail⟩ := Text.exists_trim text
    rw [htrim] at htext
    exact ⟨lead, sign, ds, trail, htext, hlead, htrail, hsign, hnumeral, hlength, hvalue⟩

theorem readMinBaseSize?_eq_some_iff (text : String) :
    readMinBaseSize? (some text) = some z ↔
      ∃ n : Nat, Sets text.toList n ∧ (1 ≤ n ∧ n ≤ 100) ∧ z = n := by
  rw [readMinBaseSize?, Option.filter_eq_some_iff, Provisioning.inRange_iff]
  constructor
  · rintro ⟨hread, hlow, hhigh⟩
    obtain ⟨n, rfl⟩ := Int.eq_ofNat_of_zero_le (show 0 ≤ z by omega)
    exact ⟨n, (sets_iff text (by omega)).2 hread, ⟨by omega, by omega⟩, rfl⟩
  · rintro ⟨n, hsets, ⟨hlow, hhigh⟩, rfl⟩
    exact ⟨(sets_iff text hlow).1 hsets, by omega, by omega⟩

end Reading

end Settings

section Planning

variable (value? : String → Option String)

/-- A size that was read is within bounds, so that the policy takes it as it is. -/
theorem floorGbOf_ofEnvironment :
    SizePolicy.floorGbOf (.ofEnvironment value?) =
      (Settings.readMinBaseSize? (value? Settings.minBaseSizeVariable)).getD
        SizePolicy.defaultMinBaseSizeGb := by
  unfold SizePolicy.floorGbOf Settings.ofEnvironment Settings.readMinBaseSize?
  rcases value? Settings.minBaseSizeVariable with _ | text
  · rfl
  · dsimp only
    rw [Option.filter_filter]
    simp only [Bool.and_self]

/-- The sizes that are planned in an environment: its variable sets the floor if it sets a number
from one to a hundred, and anything else it may be is as good as none. -/
theorem planSize_ofEnvironment (nominal : Int) (image : Option String) (w : Run σ) :
    let raw := value? Settings.minBaseSizeVariable
    let planned := (planSize (.ofSettings (.ofEnvironment value?)) nominal image w).1
    (∀ text n, raw = some text → Settings.Sets text.toList n → 1 ≤ n ∧ n ≤ 100 →
        planned = .ok (max (5 * max nominal 0) (n * 1073741824))) ∧
      ((∀ text n, raw = some text → Settings.Sets text.toList n → ¬(1 ≤ n ∧ n ≤ 100)) →
        planned = .ok (max (5 * max nominal 0) (10 * 1073741824))) := by
  intro raw planned
  have hplanned : planned = .ok (max (5 * max nominal 0)
      ((Settings.readMinBaseSize? raw).getD SizePolicy.defaultMinBaseSizeGb * 1073741824)) := by
    rw [← floorGbOf_ofEnvironment]
    obtain ⟨ho, -, -⟩ := Provisioning.logs_planSize (.ofEnvironment value?) nominal image w
    exact ho.trans (congrArg _ (Provisioning.planned_ofSettings _ nominal))
  constructor
  · intro text n hraw hsets hrange
    have hread : Settings.readMinBaseSize? raw = some (n : Int) := by
      rw [hraw]
      exact (Settings.readMinBaseSize?_eq_some_iff text).2 ⟨n, hsets, hrange, rfl⟩
    rw [hplanned, hread, Option.getD_some]
  · intro hunset
    have hread : Settings.readMinBaseSize? raw = none := by
      rcases hraw : raw with _ | text
      · rfl
      · refine Option.eq_none_iff_forall_ne_some.2 fun z hz => ?_
        obtain ⟨n, hsets, hrange, -⟩ := (Settings.readMinBaseSize?_eq_some_iff text).1 hz
        exact hunset text n hraw hsets hrange
    rw [hplanned, hread, Option.getD_none]
    rfl

/-- For a gibibyte of content seven are planned where the variable sets seven, between an
ideographic space and a file separator, and ten where a space goes between sign and digit. -/
theorem planSize_ofEnvironment_sevens :
    let planned (raw : String) : Except Failure Int :=
      (planSize (.ofSettings (.ofEnvironment fun _ => some raw)) 1073741824 none
        ({ files := .bare [], runner := () } : Run Unit)).1
    planned "\u3000+007\x1C" = .ok 7516192768 ∧ planned "+ 7" = .ok 10737418240 := by
  intro planned
  have hsets : Settings.Sets "\u3000+007\x1C".toList 7 :=
    (Settings.sets_iff _ (by decide)).2 (by decide +kernel)
  have hread : Settings.readInt? (Text.trim "+ 7").toList = none := by decide +kernel
  constructor
  · exact (planSize_ofEnvironment _ _ _ _).1 _ 7 rfl hsets ⟨by decide, by decide⟩
  · refine (planSize_ofEnvironment _ _ _ _).2 fun text n hraw hset hrange => ?_
    obtain rfl := Option.some.inj hraw
    exact nomatch hread.symm.trans ((Settings.sets_iff _ hrange.1).1 hset)

end Planning

end GuestImage
