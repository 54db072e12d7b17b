import GuestImage.Json.Parser
import GuestImage.Json.Printer
import Mathlib.Tactic.SplitIfs

/-!
# Reading JSON back

What is written is read as what was written. The code units of a text come back through its escapes
and join into its characters again (`textFrom_flatMap_escape`), an integer comes back from its
digits (`integerFrom_text`), and a value from its text in any layout, before whatever does not go
on with a digit (`reads_render`). Nothing but printable ASCII characters is written, and line feeds
where a value is not laid out on one line (`printed_render`).
-/

namespace GuestImage.Json

section Texts

theorem hexValue?_digitChar : ∀ d < 16, hexValue? (Nat.digitChar d) = some d := by decide

/-- The code units of a character. -/
def unitsOf (c : Char) : List Nat :=
  if c.toNat ≤ 0xFFFF then [c.toNat]
  else [0xD800 + (c.toNat - 0x10000) / 0x400, 0xDC00 + (c.toNat - 0x10000) % 0x400]

theorem unitsFrom_unit {n : Nat} (hn : n < 0x10000) (rest : List Char) :
    unitsFrom (unit n ++ rest) = (unitsFrom rest).map fun p => (n :: p.1, p.2) := by
  have hdigits : Text.hexDigits 4 n = [Nat.digitChar (n / 16 / 16 / 16 % 16),
      Nat.digitChar (n / 16 / 16 % 16), Nat.digitChar (n / 16 % 16), Nat.digitChar (n % 16)] := rfl
  have hunit : unitOf? (Nat.digitChar (n / 16 / 16 / 16 % 16)) (Nat.digitChar (n / 16 / 16 % 16))
      (Nat.digitChar (n / 16 % 16)) (Nat.digitChar (n % 16)) = some n := by
    simp only [unitOf?, hexValue?_digitChar _ (Nat.mod_lt _ (show 16 > 0 by decide))]
    congr 1
    omega
  rw [unit, hdigits]
  simp only [List.cons_append, List.nil_append, unitsFrom, hunit]
  rcases unitsFrom rest with _ | ⟨units, rest⟩ <;> rfl

theorem unitsFrom_letter {c d : Char} (hletter : c ≠ 'u') (h : unescape? c = some d)
    (rest : List Char) :
    unitsFrom ('\\' :: c :: rest) = (unitsFrom rest).map fun p => (d.toNat :: p.1, p.2) := by
  rw [unitsFrom.eq_4, h]
  · rcases unitsFrom rest with _ | ⟨units, rest⟩ <;> rfl
  · simp [hletter]

theorem unitsFrom_self {c : Char} (hquote : c ≠ '"') (hslash : c ≠ '\\') (hspace : ' ' ≤ c)
    (rest : List Char) :
    unitsFrom (c :: rest) = (unitsFrom rest).map fun p => (c.toNat :: p.1, p.2) := by
  rw [unitsFrom.eq_5, if_pos hspace]
  all_goals simp [hquote, hslash]

theorem unitsOf_of_le {c : Char} (h : c.toNat ≤ 0xFFFF) : unitsOf c = [c.toNat] :=
  if_pos h

theorem unitsFrom_escape (c : Char) (rest : List Char) :
    unitsFrom (escape c ++ rest) = (unitsFrom rest).map fun p => (unitsOf c ++ p.1, p.2) := by
  have hletter : ∀ {e d : Char}, e ≠ 'u' → unescape? e = some d → d.toNat ≤ 0xFFFF →
      unitsFrom (['\\', e] ++ rest) = (unitsFrom rest).map fun p => (unitsOf d ++ p.1, p.2) := by
    intro e d hu hd hle
    rw [unitsOf_of_le hle]
    exact unitsFrom_letter hu hd rest
  unfold escape
  split_ifs with h₁ h₂ h₃ h₄ h₅ h₆ h₇ h₈ h₉
  · subst h₁
    exact hletter (by decide) rfl (by decide)
  · subst h₂
    exact hletter (by decide) rfl (by decide)
  · subst h₃
    exact hletter (by decide) rfl (by decide)
  · subst h₄
    exact hletter (by decide) rfl (by decide)
  · subst h₅
    exact hletter (by decide) rfl (by decide)
  · subst h₆
    exact hletter (by decide) rfl (by decide)
  · subst h₇
    exact hletter (by decide) rfl (by decide)
  · rw [Bool.and_eq_true, decide_eq_true_eq, decide_eq_true_eq] at h₈
    have hle : c.toNat ≤ '~'.toNat := h₈.2
    rw [unitsOf_of_le (by simp at hle; omega)]
    exact unitsFrom_self h₁ h₂ h₈.1 rest
  · rw [unitsOf_of_le h₉]
    exact unitsFrom_unit (by omega) rest
  · have hvalid : c.toNat < 0xD800 ∨ 0xDFFF < c.toNat ∧ c.toNat < 0x110000 := c.valid
    have hunits : unitsOf c = [0xD800 + (c.toNat - 0x10000) / 0x400,
        0xDC00 + (c.toNat - 0x10000) % 0x400] := if_neg h₉
    rw [List.append_assoc, unitsFrom_unit (by omega), unitsFrom_unit (by omega), hunits]
    rcases unitsFrom rest with _ | ⟨units, rest⟩ <;> rfl

theorem unitsFrom_flatMap_escape (cs rest : List Char) :
    unitsFrom (cs.flatMap escape ++ '"' :: rest) = some (cs.flatMap unitsOf, rest) := by
  induction cs with
  | nil => rfl
  | cons c cs ih =>
    rw [List.flatMap_cons, List.append_assoc, unitsFrom_escape, ih, List.flatMap_cons,
      Option.map_some]

theorem charactersOf?_unitsOf (c : Char) (units : List Nat) :
    charactersOf? (unitsOf c ++ units) = (charactersOf? units).map (c :: ·) := by
  have hvalid : c.toNat < 0xD800 ∨ 0xDFFF < c.toNat ∧ c.toNat < 0x110000 := c.valid
  unfold unitsOf
  split_ifs with h
  · have hhigh : isHighSurrogate c.toNat = false := by
      simp only [isHighSurrogate, Bool.and_eq_false_iff, decide_eq_false_iff_not]
      omega
    have hlow : isLowSurrogate c.toNat = false := by
      simp only [isLowSurrogate, Bool.and_eq_false_iff, decide_eq_false_iff_not]
      omega
    rcases units with _ | ⟨m, units⟩
    · simp [charactersOf?, hhigh, hlow]
    · simp [charactersOf?, hhigh, hlow]
  · have hhigh : isHighSurrogate (0xD800 + (c.toNat - 0x10000) / 0x400) = true := by
      simp only [isHighSurrogate, Bool.and_eq_true, decide_eq_true_eq]
      omega
    have hlow : isLowSurrogate (0xDC00 + (c.toNat - 0x10000) % 0x400) = true := by
      simp only [isLowSurrogate, Bool.and_eq_true, decide_eq_true_eq]
      omega
    have hchar : 0x10000 + (0xD800 + (c.toNat - 0x10000) / 0x400 - 0xD800) * 0x400 +
        (0xDC00 + (c.toNat - 0x10000) % 0x400 - 0xDC00) = c.toNat := by omega
    rw [List.cons_append, List.singleton_append, charactersOf?, if_pos hhigh, if_pos hlow, hchar,
      Char.ofNat_toNat]

theorem charactersOf?_flatMap_unitsOf (cs : List Char) :
    charactersOf? (cs.flatMap unitsOf) = some cs := by
  induction cs with
  | nil => rfl
  | cons c cs ih => rw [List.flatMap_cons, charactersOf?_unitsOf, ih, Option.map_some]

theorem textFrom_flatMap_escape (s : String) (rest : List Char) :
    textFrom (s.toList.flatMap escape ++ '"' :: rest) = some (s, rest) := by
  simp only [textFrom, unitsFrom_flatMap_escape, charactersOf?_flatMap_unitsOf, Option.map_some,
    String.ofList_toList]

end Texts

section Numbers

/-- A text that does not go on with a digit. -/
def EndsDigits (rest : List Char) : Prop :=
  ∀ c ∈ rest.head?, c.isDigit = false

theorem eq_zero_of_head?_digits (n : Nat) (h : (Decimal.digits n).head? = some '0') : n = 0 := by
  unfold Decimal.digits at h
  by_cases hn : n < 10
  · rw [Nat.toDigits_of_lt_base hn, List.head?_cons, Option.some_inj] at h
    have hzero : ∀ n < 10, Nat.digitChar n = '0' → n = 0 := by decide
    exact hzero n hn h
  · obtain ⟨c, t, hct⟩ := List.exists_cons_of_ne_nil (Decimal.digits_ne_nil (n / 10))
    have ih := eq_zero_of_head?_digits (n / 10)
    rw [hct] at ih
    unfold Decimal.digits at hct
    rw [Nat.toDigits_of_base_le (by omega) (by omega), hct] at h
    have := ih h
    omega
termination_by n

theorem naturalFrom_digits (n : Nat) {rest : List Char} (hrest : EndsDigits rest) :
    naturalFrom (Decimal.digits n ++ rest) = some (n, rest) := by
  have hdigits : ∀ c ∈ Decimal.digits n, c.isDigit = true :=
    fun c hc => Decimal.isDigit_of_mem_digits hc
  have hnone : rest.takeWhile Char.isDigit = [] ∧ rest.dropWhile Char.isDigit = rest := by
    rcases rest with _ | ⟨c, rest⟩
    · exact ⟨rfl, rfl⟩
    · have hc := hrest c rfl
      simp [hc]
  have htake : (Decimal.digits n ++ rest).takeWhile Char.isDigit = Decimal.digits n := by
    rw [List.takeWhile_append_of_pos hdigits, hnone.1, List.append_nil]
  have hdrop : (Decimal.digits n ++ rest).dropWhile Char.isDigit = rest := by
    rw [List.dropWhile_append_of_pos hdigits, hnone.2]
  simp only [naturalFrom, htake, hdrop, Decimal.value_digits]
  rw [if_neg]
  rw [Bool.or_eq_true, Bool.and_eq_true, decide_eq_true_eq, decide_eq_true_eq, List.isEmpty_iff]
  rintro (hnil | ⟨hzero, hlength⟩)
  · exact Decimal.digits_ne_nil n hnil
  · obtain rfl := eq_zero_of_head?_digits n hzero
    exact hlength rfl

theorem text_cases (z : Int) :
    ∃ c t, Decimal.text z = c :: t ∧ (c = '-' ∨ c.isDigit = true) ∧ ∀ d ∈ t, d.isDigit = true := by
  unfold Decimal.text
  split_ifs
  · exact ⟨_, _, rfl, .inl rfl, fun d hd => Decimal.isDigit_of_mem_digits hd⟩
  · obtain ⟨c, t, hct⟩ := List.exists_cons_of_ne_nil (Decimal.digits_ne_nil z.natAbs)
    have hdigits : ∀ d ∈ c :: t, d.isDigit = true :=
      fun d hd => Decimal.isDigit_of_mem_digits (hct ▸ hd)
    exact ⟨c, t, hct, .inr (hdigits c List.mem_cons_self),
      fun d hd => hdigits d (List.mem_cons_of_mem c hd)⟩

theorem integerFrom_text (z : Int) {rest : List Char} (hrest : EndsDigits rest) :
    integerFrom (Decimal.text z ++ rest) = some (z, rest) := by
  unfold Decimal.text
  split_ifs with hneg
  · have hz : -(z.natAbs : Int) = z := by omega
    rw [List.cons_append, integerFrom, naturalFrom_digits _ hrest, Option.map_some, hz]
  · have hz : (z.natAbs : Int) = z := by omega
    rw [integerFrom.eq_2, naturalFrom_digits _ hrest, Option.map_some, hz]
    intro t ht
    obtain ⟨c, digits, hct⟩ := List.exists_cons_of_ne_nil (Decimal.digits_ne_nil z.natAbs)
    rw [hct, List.cons_append, List.cons.injEq] at ht
    have hdigit : '-'.isDigit = true :=
      Decimal.isDigit_of_mem_digits (n := z.natAbs) (by rw [hct, ← ht.1]; exact List.mem_cons_self)
    exact absurd hdigit (by decide)

end Numbers

section Spaces

theorem skipSpace_append {gap : List Char} (hgap : ∀ c ∈ gap, isSpace c = true) (s : List Char) :
    skipSpace (gap ++ s) = skipSpace s :=
  List.dropWhile_append_of_pos hgap

theorem skipSpace_cons {c : Char} (hc : isSpace c = false) (s : List Char) :
    skipSpace (c :: s) = c :: s := by
  simp [skipSpace, hc]

theorem isSpace_of_mem_gap (layout : Layout) (depth : Nat) :
    ∀ c ∈ layout.gap depth, isSpace c = true := by
  cases layout with
  | line => simp [Layout.gap]
  | page spaces =>
    intro c hc
    rw [Layout.gap, List.mem_cons, List.mem_replicate] at hc
    rcases hc with rfl | ⟨-, rfl⟩ <;> rfl

theorem not_isDigit_of_isSpace {c : Char} (hc : isSpace c = true) : c.isDigit = false := by
  simp only [isSpace, Bool.or_eq_true, decide_eq_true_eq] at hc
  rcases hc with ((rfl | rfl) | rfl) | rfl <;> rfl

theorem endsDigits_append {gap : List Char} (hgap : ∀ c ∈ gap, isSpace c = true) {c : Char}
    (hc : c.isDigit = false) (rest : List Char) : EndsDigits (gap ++ c :: rest) := by
  rcases gap with _ | ⟨d, gap⟩
  · simpa [EndsDigits] using hc
  · rintro e he
    obtain rfl : d = e := by simpa using he
    exact not_isDigit_of_isSpace (hgap d List.mem_cons_self)

theorem exists_comma (layout : Layout) (depth : Nat) :
    ∃ gap, layout.comma depth = ',' :: gap ∧ ∀ c ∈ gap, isSpace c = true := by
  cases layout with
  | line => exact ⟨[' '], rfl, by simp [isSpace]⟩
  | page spaces => exact ⟨_, rfl, isSpace_of_mem_gap (.page spaces) depth⟩

end Spaces

section Values

variable {layout : Layout} {depth steps : Nat}

/-- A text is read as a value after any space, and before what does not go on with a digit. A step
for each character is enough. -/
def Reads (text : List Char) (v : Value) : Prop :=
  ∀ steps rest, text.length ≤ steps → EndsDigits rest →
    valueFrom steps (text ++ rest) = some (v, rest)

theorem valueFrom_append {gap : List Char} (hgap : ∀ c ∈ gap, isSpace c = true) (s : List Char) :
    valueFrom steps (gap ++ s) = valueFrom steps s := by
  cases steps with
  | zero => rfl
  | succ steps => rw [valueFrom, valueFrom, skipSpace_append hgap]

theorem itemsFrom_append {gap : List Char} (hgap : ∀ c ∈ gap, isSpace c = true) (s : List Char) :
    itemsFrom steps (gap ++ s) = itemsFrom steps s := by
  cases steps with
  | zero => rfl
  | succ steps => rw [itemsFrom, itemsFrom, valueFrom_append hgap]

theorem membersFrom_append {gap : List Char} (hgap : ∀ c ∈ gap, isSpace c = true)
    (s : List Char) : membersFrom steps (gap ++ s) = membersFrom steps s := by
  cases steps with
  | zero => rfl
  | succ steps => rw [membersFrom, membersFrom, skipSpace_append hgap]

theorem isSpace_of_number {c : Char} (hc : c = '-' ∨ c.isDigit = true) : isSpace c = false := by
  rw [Bool.eq_false_iff]
  intro hspace
  simp only [isSpace, Bool.or_eq_true, decide_eq_true_eq] at hspace
  rcases hspace with ((rfl | rfl) | rfl) | rfl <;> revert hc <;> decide

theorem valueFrom_number {c : Char} (hc : c = '-' ∨ c.isDigit = true) (t : List Char) :
    valueFrom (steps + 1) (c :: t) = (integerFrom (c :: t)).map fun p => (.int p.1, p.2) := by
  have hother : c ≠ 'n' ∧ c ≠ 't' ∧ c ≠ 'f' ∧ c ≠ '"' ∧ c ≠ '[' ∧ c ≠ '\x7b' := by
    refine ⟨?_, ?_, ?_, ?_, ?_, ?_⟩ <;> (rintro rfl; revert hc; decide)
  simp [valueFrom, skipSpace_cons (isSpace_of_number hc), hother]

theorem reads_of_cons {c : Char} {t : List Char} {v : Value}
    (h : ∀ steps rest, t.length ≤ steps → EndsDigits rest →
      valueFrom (steps + 1) (c :: (t ++ rest)) = some (v, rest)) :
    Reads (c :: t) v := by
  intro steps rest hsteps hrest
  rw [List.length_cons] at hsteps
  obtain ⟨steps, rfl⟩ : ∃ n, steps = n + 1 := ⟨steps - 1, by omega⟩
  exact h steps rest (by omega) hrest

theorem reads_int (z : Int) : Reads (Decimal.text z) (.int z) := by
  obtain ⟨c, t, hct, hc, -⟩ := text_cases z
  rw [hct]
  refine reads_of_cons fun steps rest _ hrest => ?_
  have hread := integerFrom_text z hrest
  rw [hct, List.cons_append] at hread
  rw [valueFrom_number hc, hread, Option.map_some]

theorem reads_null : Reads ['n', 'u', 'l', 'l'] .null :=
  reads_of_cons fun _ _ _ _ => rfl

theorem reads_bool (b : Bool) : Reads (render layout depth (.bool b)) (.bool b) := by
  cases b with
  | true => exact reads_of_cons fun _ _ _ _ => rfl
  | false => exact reads_of_cons fun _ _ _ _ => rfl

theorem reads_text (s : String) : Reads (renderText s) (.text s) := by
  rw [renderText, List.cons_append]
  refine reads_of_cons fun steps rest _ _ => ?_
  rw [List.append_assoc, List.singleton_append, valueFrom, skipSpace_cons rfl]
  simp only [textFrom_flatMap_escape, Option.map_some]

/-- The text of a value starts with no space and with no closing bracket. -/
theorem render_starts (layout : Layout) (depth : Nat) (v : Value) :
    ∃ c t, render layout depth v = c :: t ∧ isSpace c = false ∧ c ≠ ']' := by
  cases v with
  | null => exact ⟨_, _, rfl, rfl, by decide⟩
  | bool b => cases b <;> exact ⟨_, _, rfl, rfl, by decide⟩
  | int z =>
    obtain ⟨c, t, hct, hc, -⟩ := text_cases z
    exact ⟨c, t, hct, isSpace_of_number hc, by rintro rfl; revert hc; decide⟩
  | text s => exact ⟨_, _, rfl, rfl, by decide⟩
  | list items => cases items <;> exact ⟨_, _, rfl, rfl, by decide⟩
  | object members =>
    rcases members with _ | ⟨⟨name, v⟩, rest⟩ <;> exact ⟨_, _, rfl, rfl, by decide⟩

theorem itemsFrom_render {gap : List Char} (hgap : ∀ c ∈ gap, isSpace c = true)
    (rest : List Char) : ∀ (items : List Value) (v : Value),
      (∀ w ∈ v :: items, Reads (render layout depth w) w) → ∀ steps,
        (render layout depth v).length + (renderItems layout depth items).length < steps →
        itemsFrom steps (render layout depth v ++ (renderItems layout depth items ++
          (gap ++ ']' :: rest))) = some (v :: items, rest)
  | [], v, h, steps + 1, hsteps => by
    rw [renderItems, List.nil_append, itemsFrom,
      h v List.mem_cons_self steps _ (by omega) (endsDigits_append hgap rfl rest)]
    simp only [skipSpace_append hgap, skipSpace_cons (show isSpace ']' = false from rfl)]
  | w :: items, v, h, steps + 1, hsteps => by
    obtain ⟨comma, hcomma, hspaces⟩ := exists_comma layout depth
    rw [renderItems, hcomma, List.length_append, List.length_append, List.length_cons] at hsteps
    have hrest : itemsFrom steps (comma ++ (render layout depth w ++
        (renderItems layout depth items ++ (gap ++ ']' :: rest)))) = some (w :: items, rest) := by
      rw [itemsFrom_append hspaces]
      exact itemsFrom_render hgap rest items w (fun u hu => h u (List.mem_cons_of_mem v hu)) steps
        (by omega)
    rw [renderItems, hcomma, List.append_assoc, List.append_assoc, List.cons_append, itemsFrom,
      h v List.mem_cons_self steps _ (by omega) (by simp [EndsDigits])]
    simp only [skipSpace_cons (show isSpace ',' = false from rfl), hrest, Option.map_some]

section Member

variable (name : String) {v : Value} {text after rest : List Char} (hv : Reads text v)
  (hsteps : text.length ≤ steps) (hafter : EndsDigits after)
include hv hsteps hafter

theorem valueFrom_space :
    valueFrom steps (' ' :: (text ++ after)) = some (v, after) := by
  rw [← List.singleton_append, valueFrom_append (by simp [isSpace])]
  exact hv steps after hsteps hafter

theorem membersFrom_last (hlast : skipSpace after = '\x7d' :: rest) :
    membersFrom (steps + 1) (renderText name ++ ':' :: ' ' :: (text ++ after)) =
      some ([(name, v)], rest) := by
  have hread := valueFrom_space hv hsteps hafter
  rw [renderText, List.append_assoc, List.singleton_append, List.cons_append, membersFrom,
    skipSpace_cons rfl]
  simp only [textFrom_flatMap_escape, skipSpace_cons (show isSpace ':' = false from rfl), hread,
    hlast]

theorem membersFrom_next (hnext : skipSpace after = ',' :: rest) :
    membersFrom (steps + 1) (renderText name ++ ':' :: ' ' :: (text ++ after)) =
      (membersFrom steps rest).map fun p => ((name, v) :: p.1, p.2) := by
  have hread := valueFrom_space hv hsteps hafter
  rw [renderText, List.append_assoc, List.singleton_append, List.cons_append, membersFrom,
    skipSpace_cons rfl]
  simp only [textFrom_flatMap_escape, skipSpace_cons (show isSpace ':' = false from rfl), hread,
    hnext]

end Member

theorem membersFrom_render {gap : List Char} (hgap : ∀ c ∈ gap, isSpace c = true)
    (rest : List Char) : ∀ (members : List (String × Value)) (name : String) (v : Value),
      (∀ m ∈ (name, v) :: members, Reads (render layout depth m.2) m.2) → ∀ steps,
        (render layout depth v).length + (renderMembers layout depth members).length < steps →
        membersFrom steps (renderText name ++ ':' :: ' ' :: (render layout depth v ++
          (renderMembers layout depth members ++ (gap ++ '\x7d' :: rest)))) =
          some ((name, v) :: members, rest)
  | [], name, v, h, steps + 1, hsteps => by
    have hv : Reads (render layout depth v) v := h (name, v) List.mem_cons_self
    have hclosing : skipSpace (gap ++ '\x7d' :: rest) = '\x7d' :: rest := by
      rw [skipSpace_append hgap, skipSpace_cons rfl]
    rw [renderMembers, List.nil_append]
    exact membersFrom_last name hv (by omega) (endsDigits_append hgap (by decide) rest) hclosing
  | (name', w) :: members, name, v, h, steps + 1, hsteps => by
    obtain ⟨comma, hcomma, hspaces⟩ := exists_comma layout depth
    have hv : Reads (render layout depth v) v := h (name, v) List.mem_cons_self
    have hlength : (renderMembers layout depth ((name', w) :: members)).length =
        comma.length + (renderText name').length + (render layout depth w).length +
          (renderMembers layout depth members).length + 3 := by
      simp only [renderMembers, hcomma, List.length_append, List.length_cons]
      omega
    have hrest := membersFrom_render hgap rest members name' w
      (fun m hm => h m (List.mem_cons_of_mem (name, v) hm)) steps (by omega)
    rw [renderMembers, hcomma]
    simp only [List.append_assoc, List.cons_append]
    rw [membersFrom_next name hv (by omega) (by simp [EndsDigits]) (skipSpace_cons rfl _)]
    simp only [membersFrom_append hspaces, hrest, Option.map_some]

variable (layout)

theorem reads_list {items : List Value} (h : ∀ w ∈ items, Reads (render layout (depth + 1) w) w) :
    Reads (render layout depth (.list items)) (.list items) := by
  rcases items with _ | ⟨v, items⟩
  · exact reads_of_cons fun _ _ _ _ => rfl
  · refine reads_of_cons fun steps rest hsteps _ => ?_
    simp only [List.length_append, List.length_singleton] at hsteps
    have hread := itemsFrom_render (isSpace_of_mem_gap layout depth) rest items v h steps
      (by omega)
    obtain ⟨c, t, hct, hc, hclosing⟩ := render_starts layout (depth + 1) v
    rw [hct] at hread
    simp only [List.append_assoc, List.cons_append, List.nil_append]
    rw [valueFrom, skipSpace_cons rfl]
    simp only [skipSpace_append (isSpace_of_mem_gap layout (depth + 1)), hct, List.cons_append,
      skipSpace_cons hc]
    split
    · rename_i heq
      exact absurd (List.cons.inj heq).1 hclosing
    · rw [← List.cons_append, hread, Option.map_some]

theorem reads_object {members : List (String × Value)}
    (h : ∀ m ∈ members, Reads (render layout (depth + 1) m.2) m.2) :
    Reads (render layout depth (.object members)) (.object members) := by
  rcases members with _ | ⟨⟨name, v⟩, members⟩
  · exact reads_of_cons fun _ _ _ _ => rfl
  · refine reads_of_cons fun steps rest hsteps _ => ?_
    simp only [List.length_append, List.length_cons] at hsteps
    have hread := membersFrom_render (isSpace_of_mem_gap layout depth) rest members name v h steps
      (by omega)
    have hquote : renderText name = '"' :: (name.toList.flatMap escape ++ ['"']) := rfl
    rw [hquote] at hread
    simp only [hquote, List.append_assoc, List.cons_append] at hread ⊢
    rw [valueFrom, skipSpace_cons rfl]
    simp only [skipSpace_append (isSpace_of_mem_gap layout (depth + 1)),
      skipSpace_cons (show isSpace '"' = false from rfl), List.nil_append] at hread ⊢
    split
    · rename_i heq
      exact absurd (List.cons.inj heq).1 (by decide)
    · rw [hread, Option.map_some]

mutual

/-- The text of a value is read as the value. -/
theorem reads_render : ∀ (v : Value) (depth : Nat), Reads (render layout depth v) v
  | .null, _ => reads_null
  | .bool b, _ => reads_bool b
  | .int z, _ => reads_int z
  | .text s, _ => reads_text s
  | .list items, depth => reads_list layout fun w hw => reads_items items w hw (depth + 1)
  | .object members, depth =>
    reads_object layout fun m hm => reads_members members m hm (depth + 1)

theorem reads_items : ∀ (items : List Value), ∀ w ∈ items, ∀ depth,
    Reads (render layout depth w) w
  | v :: items, w, hw, depth => by
    rcases List.mem_cons.1 hw with hv | hw
    · exact hv ▸ reads_render v depth
    · exact reads_items items w hw depth

theorem reads_members : ∀ (members : List (String × Value)), ∀ m ∈ members, ∀ depth,
    Reads (render layout depth m.2) m.2
  | (name, v) :: members, m, hm, depth => by
    rcases List.mem_cons.1 hm with hv | hm
    · exact hv ▸ reads_render v depth
    · exact reads_members members m hm depth

end

theorem parse?_render (v : Value) {space : List Char} (hspace : ∀ c ∈ space, isSpace c = true) :
    parse? (render layout 0 v ++ space) = some v := by
  have hends : EndsDigits space :=
    fun c hc => not_isDigit_of_isSpace (hspace c (List.mem_of_mem_head? hc))
  have hskip := skipSpace_append hspace []
  rw [List.append_nil] at hskip
  have hread := reads_render layout v 0 (2 * (render layout 0 v ++ space).length + 2) space
    (by rw [List.length_append]; omega) hends
  simp only [parse?, hread, hskip]
  rfl

theorem sortedMembers_perm : ∀ members : List (String × Value),
    (sortedMembers members).Perm (members.map fun m => (m.1, m.2.sorted))
  | [] => .refl _
  | (name, v) :: members => by
    rw [sortedMembers, List.map_cons]
    exact (insertMember_perm _ _).trans ((sortedMembers_perm members).cons _)

end Values

/-- What is written in a layout: printable ASCII characters, and line feeds if it is not a line. -/
def Printed (layout : Layout) (s : List Char) : Prop :=
  ∀ c ∈ s, ' ' ≤ c ∧ c ≤ '~' ∨ c = '\n' ∧ layout ≠ .line

/-- The characters of a text are all ASCII. -/
def Ascii (s : List Char) : Prop :=
  ∀ c ∈ s, c.toNat < 128

section Printed

variable {layout : Layout} {s t : List Char}

@[simp]
theorem printed_nil : Printed layout [] := by simp [Printed]

@[simp]
theorem printed_cons {c : Char} : Printed layout (c :: s) ↔
    (' ' ≤ c ∧ c ≤ '~' ∨ c = '\n' ∧ layout ≠ .line) ∧ Printed layout s :=
  List.forall_mem_cons

@[simp]
theorem printed_append : Printed layout (s ++ t) ↔ Printed layout s ∧ Printed layout t :=
  List.forall_mem_append

theorem Printed.newline_notMem (h : Printed .line s) : '\n' ∉ s := by
  intro hnewline
  rcases h _ hnewline with ⟨hspace, -⟩ | ⟨-, hline⟩
  · exact absurd hspace (by decide)
  · exact hline rfl

theorem Printed.ascii (h : Printed layout s) : Ascii s := by
  intro c hc
  rcases h c hc with ⟨-, hle⟩ | ⟨rfl, -⟩
  · have hle : c.toNat ≤ '~'.toNat := hle
    exact Nat.lt_of_le_of_lt hle (by decide)
  · decide

@[simp]
theorem ascii_nil : Ascii [] := by simp [Ascii]

@[simp]
theorem ascii_cons {c : Char} : Ascii (c :: s) ↔ c.toNat < 128 ∧ Ascii s :=
  List.forall_mem_cons

@[simp]
theorem ascii_append : Ascii (s ++ t) ↔ Ascii s ∧ Ascii t :=
  List.forall_mem_append

theorem printed_digits (n : Nat) : Printed layout (Decimal.digits n) := by
  intro c hc
  have hdigit := Decimal.isDigit_of_mem_digits hc
  rw [Char.isDigit, Bool.and_eq_true, decide_eq_true_eq, decide_eq_true_eq] at hdigit
  exact .inl ⟨Char.le_trans (show ' ' ≤ '0' by decide) hdigit.1,
    Char.le_trans hdigit.2 (show '9' ≤ '~' by decide)⟩

theorem printed_text (z : Int) : Printed layout (Decimal.text z) := by
  unfold Decimal.text
  split_ifs <;> simp [printed_digits]

theorem printed_hexDigits (width : Nat) : ∀ n, Printed layout (Text.hexDigits width n) := by
  have hdigit : ∀ d < 16, ' ' ≤ Nat.digitChar d ∧ Nat.digitChar d ≤ '~' := by decide
  induction width with
  | zero => exact fun _ => printed_nil
  | succ width ih =>
    intro n
    have hlast := hdigit (n % 16) (Nat.mod_lt n (by decide))
    simp [Text.hexDigits, ih, hlast]

theorem printed_unit (n : Nat) : Printed layout (unit n) := by
  simp [unit, printed_hexDigits]

theorem printed_escape (c : Char) : Printed layout (escape c) := by
  by_cases hplain : (' ' ≤ c && c ≤ '~') = true
  · have hprinted : ' ' ≤ c ∧ c ≤ '~' := by simpa using hplain
    unfold escape
    split_ifs <;> simp [hprinted]
  · unfold escape
    rw [if_neg hplain]
    split_ifs <;> simp [printed_unit]

theorem printed_renderText (s : String) : Printed layout (renderText s) := by
  have hescaped : Printed layout (s.toList.flatMap escape) := by
    intro c hc
    obtain ⟨d, -, hd⟩ := List.mem_flatMap.1 hc
    exact printed_escape d c hd
  simp [renderText, hescaped]

variable (layout)

theorem printed_gap (depth : Nat) : Printed layout (layout.gap depth) := by
  cases layout with
  | line => exact printed_nil
  | page spaces =>
    refine printed_cons.2 ⟨.inr ⟨rfl, nofun⟩, fun c hc => .inl ?_⟩
    obtain rfl := (List.mem_replicate.1 hc).2
    decide

theorem printed_comma (depth : Nat) : Printed layout (layout.comma depth) := by
  cases layout with
  | line => simp [Layout.comma]
  | page spaces => simp [Layout.comma, printed_gap]

mutual

theorem printed_render : ∀ (v : Value) (depth : Nat), Printed layout (render layout depth v)
  | .null, _ => by simp [render]
  | .bool true, _ => by simp [render]
  | .bool false, _ => by simp [render]
  | .int z, _ => printed_text z
  | .text s, _ => printed_renderText s
  | .list [], _ => by simp [render]
  | .list (v :: items), depth => by
    simp [render, printed_gap, printed_render v (depth + 1),
      printed_renderItems items (depth + 1)]
  | .object [], _ => by simp [render]
  | .object ((name, v) :: members), depth => by
    simp [render, printed_gap, printed_renderText, printed_render v (depth + 1),
      printed_renderMembers members (depth + 1)]

theorem printed_renderItems : ∀ (items : List Value) (depth : Nat),
    Printed layout (renderItems layout depth items)
  | [], _ => printed_nil
  | v :: items, depth => by
    simp [renderItems, printed_comma, printed_render v depth, printed_renderItems items depth]

theorem printed_renderMembers : ∀ (members : List (String × Value)) (depth : Nat),
    Printed layout (renderMembers layout depth members)
  | [], _ => printed_nil
  | (name, v) :: members, depth => by
    simp [renderMembers, printed_comma, printed_renderText, printed_render v depth,
      printed_renderMembers members depth]

end

theorem ascii_render (v : Value) (depth : Nat) : Ascii (render layout depth v) :=
  (printed_render layout v depth).ascii

end Printed

end GuestImage.Json
