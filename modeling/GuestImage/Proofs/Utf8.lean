import GuestImage.Text.Utf8
import Mathlib.Tactic.SplitIfs

/-!
# Reading UTF-8 back

The octets of a text are read as its characters again, whatever comes after them
(`piecesFrom_utf8EncodeChar`), so that the strict reading gives back every text (`decode_encode`).
It takes nothing else: octets in which no run is malformed are those of the characters they are read
as (`decode_eq_ok_iff`), and the lossy reading reads them alike.
-/

namespace GuestImage.Utf8

section Step

variable {offset n : Nat} {c : Char} {u : Unfinished} {rest : List UInt8}

theorem piecesFrom_character (hfirst : First.of (UInt8.ofNat n) = .character c) :
    piecesFrom offset none (UInt8.ofNat n :: rest) =
      .character c :: piecesFrom (offset + 1) none rest := by
  simp only [piecesFrom, step, begin, hfirst, List.singleton_append]

theorem piecesFrom_unfinished (hfirst : First.of (UInt8.ofNat n) = .unfinished u) :
    piecesFrom offset none (UInt8.ofNat n :: rest) = piecesFrom (offset + 1) (some u) rest := by
  simp only [piecesFrom, step, begin, hfirst, List.nil_append]

theorem piecesFrom_last (howed : u.owed = 1) (hn : n < 256) (hlow : u.low.toNat ≤ n)
    (hhigh : n ≤ u.high.toNat) :
    piecesFrom offset (some u) (UInt8.ofNat n :: rest) =
      .character (Char.ofNat (u.bits * 64 + (n - 0x80))) :: piecesFrom (offset + 1) none rest := by
  have hstep : step offset (some u) (UInt8.ofNat n) =
      ([.character (Char.ofNat (u.bits * 64 + (n - 0x80)))], none) := by
    simp only [step, UInt8.le_iff_toNat_le, UInt8.toNat_ofNat_of_lt' hn, hlow, hhigh, howed,
      decide_true, Bool.and_self, if_true]
  simp only [piecesFrom, hstep, List.singleton_append]

theorem piecesFrom_owing {owed : Nat} (howed : u.owed = owed + 2) (hn : n < 256)
    (hlow : u.low.toNat ≤ n) (hhigh : n ≤ u.high.toNat) :
    piecesFrom offset (some u) (UInt8.ofNat n :: rest) =
      piecesFrom (offset + 1)
        (some ⟨owed + 1, 0x80, 0xBF, u.bits * 64 + (n - 0x80), UInt8.ofNat n :: u.octets⟩)
        rest := by
  have hstep : step offset (some u) (UInt8.ofNat n) =
      ([], some ⟨owed + 1, 0x80, 0xBF, u.bits * 64 + (n - 0x80), UInt8.ofNat n :: u.octets⟩) := by
    simp only [step, UInt8.le_iff_toNat_le, UInt8.toNat_ofNat_of_lt' hn, hlow, hhigh, howed,
      decide_true, Bool.and_self, if_true]
  simp only [piecesFrom, hstep, List.nil_append]

end Step

section Widths

variable {offset v : Nat} {rest : List UInt8}

/-- The classes of first octets by their numbers. -/
theorem first_of_ofNat {n : Nat} (hn : n < 256) :
    First.of (UInt8.ofNat n) =
      if n < 0x80 then .character (Char.ofNat n)
      else if n < 0xC2 then .malformed
      else if n < 0xE0 then .unfinished ⟨1, 0x80, 0xBF, n - 0xC0, [UInt8.ofNat n]⟩
      else if n < 0xF0 then
        .unfinished ⟨2, if n = 0xE0 then 0xA0 else 0x80, if n = 0xED then 0x9F else 0xBF,
          n - 0xE0, [UInt8.ofNat n]⟩
      else if n < 0xF5 then
        .unfinished ⟨3, if n = 0xF0 then 0x90 else 0x80, if n = 0xF4 then 0x8F else 0xBF,
          n - 0xF0, [UInt8.ofNat n]⟩
      else .malformed := by
  simp only [First.of, UInt8.lt_iff_toNat_lt, ← UInt8.toNat_inj,
    UInt8.toNat_ofNat_of_lt' hn]
  rfl

theorem piecesFrom_one (h : v < 0x80) :
    piecesFrom offset none (UInt8.ofNat v :: rest) =
      .character (Char.ofNat v) :: piecesFrom (offset + 1) none rest :=
  piecesFrom_character (by rw [first_of_ofNat (by omega), if_pos h])

theorem piecesFrom_two (hlow : 0x80 ≤ v) (hhigh : v < 0x800) :
    piecesFrom offset none
        (UInt8.ofNat (v / 64 % 32 + 192) :: UInt8.ofNat (v % 64 + 128) :: rest) =
      .character (Char.ofNat v) :: piecesFrom (offset + 2) none rest := by
  have hfirst := first_of_ofNat (n := v / 64 % 32 + 192) (by omega)
  rw [if_neg (by omega), if_neg (by omega), if_pos (by omega)] at hfirst
  rw [piecesFrom_unfinished hfirst, piecesFrom_last rfl (by omega)]
  · have hbits : (v / 64 % 32 + 192 - 0xC0) * 64 + (v % 64 + 128 - 0x80) = v := by omega
    rw [hbits]
  · simp
  · simp
    omega

theorem piecesFrom_three (hlow : 0x800 ≤ v) (hhigh : v < 0x10000)
    (hvalid : v < 0xD800 ∨ 0xDFFF < v) :
    piecesFrom offset none
        (UInt8.ofNat (v / 4096 % 16 + 224) :: UInt8.ofNat (v / 64 % 64 + 128) ::
          UInt8.ofNat (v % 64 + 128) :: rest) =
      .character (Char.ofNat v) :: piecesFrom (offset + 3) none rest := by
  have hfirst := first_of_ofNat (n := v / 4096 % 16 + 224) (by omega)
  rw [if_neg (by omega), if_neg (by omega), if_neg (by omega), if_pos (by omega)] at hfirst
  rw [piecesFrom_unfinished hfirst, piecesFrom_owing rfl (by omega),
    piecesFrom_last rfl (by omega)]
  · have hbits : ((v / 4096 % 16 + 224 - 0xE0) * 64 + (v / 64 % 64 + 128 - 0x80)) * 64 +
        (v % 64 + 128 - 0x80) = v := by omega
    rw [hbits]
  · simp
  · simp
    omega
  · dsimp only
    split_ifs <;> simp
    omega
  · dsimp only
    split_ifs <;> simp <;> omega

theorem piecesFrom_four (hlow : 0x10000 ≤ v) (hhigh : v < 0x110000) :
    piecesFrom offset none
        (UInt8.ofNat (v / 262144 % 8 + 240) :: UInt8.ofNat (v / 4096 % 64 + 128) ::
          UInt8.ofNat (v / 64 % 64 + 128) :: UInt8.ofNat (v % 64 + 128) :: rest) =
      .character (Char.ofNat v) :: piecesFrom (offset + 4) none rest := by
  have hfirst := first_of_ofNat (n := v / 262144 % 8 + 240) (by omega)
  rw [if_neg (by omega), if_neg (by omega), if_neg (by omega), if_neg (by omega),
    if_pos (by omega)] at hfirst
  rw [piecesFrom_unfinished hfirst, piecesFrom_owing rfl (by omega),
    piecesFrom_owing rfl (by omega), piecesFrom_last rfl (by omega)]
  · have hbits : (((v / 262144 % 8 + 240 - 0xF0) * 64 + (v / 4096 % 64 + 128 - 0x80)) * 64 +
        (v / 64 % 64 + 128 - 0x80)) * 64 + (v % 64 + 128 - 0x80) = v := by omega
    rw [hbits]
  · simp
  · simp
    omega
  · simp
  · simp
    omega
  · dsimp only
    split_ifs <;> simp
    omega
  · dsimp only
    split_ifs <;> simp <;> omega

end Widths

/-- The octets of a character are read as that character, whatever comes after them. -/
theorem piecesFrom_utf8EncodeChar (offset : Nat) (c : Char) (rest : List UInt8) :
    ∃ offset', piecesFrom offset none (String.utf8EncodeChar c ++ rest) =
      .character c :: piecesFrom offset' none rest := by
  obtain ⟨v, hv⟩ : ∃ v, c.val.toNat = v := ⟨_, rfl⟩
  have hc : Char.ofNat v = c := by rw [← hv]; exact Char.ofNat_toNat c
  have hvalid : v < 0xD800 ∨ 0xDFFF < v ∧ v < 0x110000 := hv ▸ c.valid
  simp only [String.utf8EncodeChar, hv]
  rw [← hc]
  split_ifs
  · exact ⟨_, piecesFrom_one (by omega)⟩
  · exact ⟨_, piecesFrom_two (by omega) (by omega)⟩
  · exact ⟨_, piecesFrom_three (by omega) (by omega) (by omega)⟩
  · exact ⟨_, piecesFrom_four (by omega) (by omega)⟩

theorem piecesFrom_encode (cs : List Char) : ∀ offset,
    piecesFrom offset none (cs.flatMap String.utf8EncodeChar) = cs.map .character := by
  induction cs with
  | nil => exact fun _ => rfl
  | cons c cs ih =>
    intro offset
    obtain ⟨offset', hc⟩ := piecesFrom_utf8EncodeChar offset c (cs.flatMap String.utf8EncodeChar)
    rw [List.flatMap_cons, hc, ih, List.map_cons]

theorem characters_map (cs : List Char) : characters (cs.map .character) = .ok cs := by
  induction cs with
  | nil => rfl
  | cons c cs ih => simp [characters, ih, Except.map]

@[simp]
theorem decode_encode (s : String) : decode (encode s) = .ok s := by
  rw [decode, pieces, encode, piecesFrom_encode, characters_map]
  simp [Except.map]

section Converse

variable {offset n n₂ n₃ n₄ : Nat} {octets rest : List UInt8} {u : Unfinished} {cs : List Char}

/-- Octets that are read without a malformed run go on with the character that was started. -/
theorem exists_of_piecesFrom_some (h : piecesFrom offset (some u) octets = cs.map .character) :
    ∃ n < 256, ∃ rest, octets = UInt8.ofNat n :: rest ∧ u.low.toNat ≤ n ∧ n ≤ u.high.toNat := by
  rcases octets with _ | ⟨b, rest⟩
  · cases cs <;> simp [piecesFrom] at h
  by_cases hin : u.low ≤ b ∧ b ≤ u.high
  · exact ⟨b.toNat, b.toNat_lt, rest, by rw [UInt8.ofNat_toNat], hin.1, hin.2⟩
  · rw [← Bool.and_eq_true_iff.trans (and_congr decide_eq_true_iff decide_eq_true_iff)] at hin
    cases cs <;> simp only [piecesFrom, step, if_neg hin] at h <;> cases h

theorem exists_of_last (howed : u.owed = 1)
    (h : piecesFrom offset (some u) octets = cs.map .character) :
    ∃ n rest cs', octets = UInt8.ofNat n :: rest ∧ u.low.toNat ≤ n ∧ n ≤ u.high.toNat ∧
      cs = Char.ofNat (u.bits * 64 + (n - 0x80)) :: cs' ∧
      piecesFrom (offset + 1) none rest = cs'.map .character := by
  obtain ⟨n, hn, rest, rfl, hlow, hhigh⟩ := exists_of_piecesFrom_some h
  rw [piecesFrom_last howed hn hlow hhigh] at h
  rcases cs with _ | ⟨c, cs'⟩
  · cases h
  · rw [List.map_cons, List.cons.injEq, Piece.character.injEq] at h
    exact ⟨n, rest, cs', rfl, hlow, hhigh, by rw [h.1], h.2⟩

theorem exists_of_owing {owed : Nat} (howed : u.owed = owed + 2)
    (h : piecesFrom offset (some u) octets = cs.map .character) :
    ∃ n rest, octets = UInt8.ofNat n :: rest ∧ u.low.toNat ≤ n ∧ n ≤ u.high.toNat ∧
      piecesFrom (offset + 1)
        (some ⟨owed + 1, 0x80, 0xBF, u.bits * 64 + (n - 0x80), UInt8.ofNat n :: u.octets⟩) rest =
          cs.map .character := by
  obtain ⟨n, hn, rest, rfl, hlow, hhigh⟩ := exists_of_piecesFrom_some h
  rw [piecesFrom_owing howed hn hlow hhigh] at h
  exact ⟨n, rest, rfl, hlow, hhigh, h⟩

/-- The octets of the character of a code point. -/
theorem utf8EncodeChar_ofNat {v : Nat} (hv : v.isValidChar) :
    String.utf8EncodeChar (Char.ofNat v) =
      if v < 0x80 then [UInt8.ofNat v]
      else if v < 0x800 then [UInt8.ofNat (v / 64 % 32 + 192), UInt8.ofNat (v % 64 + 128)]
      else if v < 0x10000 then
        [UInt8.ofNat (v / 4096 % 16 + 224), UInt8.ofNat (v / 64 % 64 + 128),
          UInt8.ofNat (v % 64 + 128)]
      else
        [UInt8.ofNat (v / 262144 % 8 + 240), UInt8.ofNat (v / 4096 % 64 + 128),
          UInt8.ofNat (v / 64 % 64 + 128), UInt8.ofNat (v % 64 + 128)] := by
  have hval : (Char.ofNat v).val.toNat = v := by
    rw [Char.ofNat, dif_pos hv]
    rfl
  simp only [String.utf8EncodeChar, hval]
  split_ifs <;> first | rfl | omega

theorem encode_two (hn : 0xC2 ≤ n) (hn' : n < 0xE0) (h₂ : 0x80 ≤ n₂) (h₂' : n₂ ≤ 0xBF) :
    String.utf8EncodeChar (Char.ofNat ((n - 0xC0) * 64 + (n₂ - 0x80))) =
      [UInt8.ofNat n, UInt8.ofNat n₂] := by
  obtain ⟨v, hv⟩ : ∃ v, (n - 0xC0) * 64 + (n₂ - 0x80) = v := ⟨_, rfl⟩
  have first : v / 64 % 32 + 192 = n := by omega
  have second : v % 64 + 128 = n₂ := by omega
  rw [hv, utf8EncodeChar_ofNat (.inl (by omega)), if_neg (by omega), if_pos (by omega), first,
    second]

theorem encode_three (hn : 0xE0 ≤ n) (hn' : n < 0xF0)
    (h₂ : (if n = 0xE0 then 0xA0 else 0x80) ≤ n₂) (h₂' : n₂ ≤ if n = 0xED then 0x9F else 0xBF)
    (h₃ : 0x80 ≤ n₃) (h₃' : n₃ ≤ 0xBF) :
    String.utf8EncodeChar
        (Char.ofNat (((n - 0xE0) * 64 + (n₂ - 0x80)) * 64 + (n₃ - 0x80))) =
      [UInt8.ofNat n, UInt8.ofNat n₂, UInt8.ofNat n₃] := by
  obtain ⟨v, hv⟩ : ∃ v, ((n - 0xE0) * 64 + (n₂ - 0x80)) * 64 + (n₃ - 0x80) = v := ⟨_, rfl⟩
  have hlow : 0x80 ≤ n₂ ∧ (n = 0xE0 → 0xA0 ≤ n₂) := by split_ifs at h₂ <;> omega
  have hhigh : n₂ ≤ 0xBF ∧ (n = 0xED → n₂ ≤ 0x9F) := by split_ifs at h₂' <;> omega
  have hvalid : v < 0xD800 ∨ 0xDFFF < v ∧ v < 0x110000 := by omega
  have first : v / 4096 % 16 + 224 = n := by omega
  have second : v / 64 % 64 + 128 = n₂ := by omega
  have third : v % 64 + 128 = n₃ := by omega
  rw [hv, utf8EncodeChar_ofNat hvalid, if_neg (by omega), if_neg (by omega), if_pos (by omega),
    first, second, third]

theorem encode_four (hn : 0xF0 ≤ n) (hn' : n < 0xF5)
    (h₂ : (if n = 0xF0 then 0x90 else 0x80) ≤ n₂) (h₂' : n₂ ≤ if n = 0xF4 then 0x8F else 0xBF)
    (h₃ : 0x80 ≤ n₃) (h₃' : n₃ ≤ 0xBF) (h₄ : 0x80 ≤ n₄) (h₄' : n₄ ≤ 0xBF) :
    String.utf8EncodeChar
        (Char.ofNat
          ((((n - 0xF0) * 64 + (n₂ - 0x80)) * 64 + (n₃ - 0x80)) * 64 + (n₄ - 0x80))) =
      [UInt8.ofNat n, UInt8.ofNat n₂, UInt8.ofNat n₃, UInt8.ofNat n₄] := by
  obtain ⟨v, hv⟩ : ∃ v,
    (((n - 0xF0) * 64 + (n₂ - 0x80)) * 64 + (n₃ - 0x80)) * 64 + (n₄ - 0x80) = v := ⟨_, rfl⟩
  have hlow : 0x80 ≤ n₂ ∧ (n = 0xF0 → 0x90 ≤ n₂) := by split_ifs at h₂ <;> omega
  have hhigh : n₂ ≤ 0xBF ∧ (n = 0xF4 → n₂ ≤ 0x8F) := by split_ifs at h₂' <;> omega
  have first : v / 262144 % 8 + 240 = n := by omega
  have second : v / 4096 % 64 + 128 = n₂ := by omega
  have third : v / 64 % 64 + 128 = n₃ := by omega
  have fourth : v % 64 + 128 = n₄ := by omega
  rw [hv, utf8EncodeChar_ofNat (.inr ⟨by omega, by omega⟩), if_neg (by omega), if_neg (by omega),
    if_neg (by omega), first, second, third, fourth]

/-- Octets start with those of the first of some characters, and the rest is read as the others. -/
def Spells (octets : List UInt8) (cs : List Char) : Prop :=
  ∃ c cs' offset rest, cs = c :: cs' ∧ octets = String.utf8EncodeChar c ++ rest ∧
    piecesFrom offset none rest = cs'.map .character

theorem spells_one (hn : n < 0x80)
    (h : piecesFrom offset none (UInt8.ofNat n :: rest) = cs.map .character) :
    Spells (UInt8.ofNat n :: rest) cs := by
  rw [piecesFrom_one hn] at h
  obtain ⟨c, cs', rfl, hc, hrest⟩ := List.map_eq_cons_iff.1 h.symm
  obtain rfl := Piece.character.inj hc
  refine ⟨_, cs', _, rest, rfl, ?_, hrest.symm⟩
  rw [utf8EncodeChar_ofNat (.inl (by omega)), if_pos hn]
  rfl

theorem spells_two (hn : 0xC2 ≤ n) (hn' : n < 0xE0)
    (h : piecesFrom offset none (UInt8.ofNat n :: rest) = cs.map .character) :
    Spells (UInt8.ofNat n :: rest) cs := by
  have hfirst := first_of_ofNat (n := n) (by omega)
  rw [if_neg (by omega), if_neg (by omega), if_pos hn'] at hfirst
  rw [piecesFrom_unfinished hfirst] at h
  obtain ⟨n₂, rest', cs', rfl, hlow, hhigh, rfl, hrest⟩ := exists_of_last rfl h
  refine ⟨_, cs', _, rest', rfl, ?_, hrest⟩
  rw [encode_two hn hn' hlow hhigh]
  rfl

theorem spells_three (hn : 0xE0 ≤ n) (hn' : n < 0xF0)
    (h : piecesFrom offset none (UInt8.ofNat n :: rest) = cs.map .character) :
    Spells (UInt8.ofNat n :: rest) cs := by
  have hfirst := first_of_ofNat (n := n) (by omega)
  rw [if_neg (by omega), if_neg (by omega), if_neg (by omega), if_pos hn'] at hfirst
  rw [piecesFrom_unfinished hfirst] at h
  obtain ⟨n₂, rest₂, rfl, hlow₂, hhigh₂, h₂⟩ := exists_of_owing rfl h
  obtain ⟨n₃, rest', cs', rfl, hlow, hhigh, rfl, hrest⟩ := exists_of_last rfl h₂
  refine ⟨_, cs', _, rest', rfl, ?_, hrest⟩
  rw [apply_ite UInt8.toNat] at hlow₂ hhigh₂
  rw [encode_three hn hn' hlow₂ hhigh₂ hlow hhigh]
  rfl

theorem spells_four (hn : 0xF0 ≤ n) (hn' : n < 0xF5)
    (h : piecesFrom offset none (UInt8.ofNat n :: rest) = cs.map .character) :
    Spells (UInt8.ofNat n :: rest) cs := by
  have hfirst := first_of_ofNat (n := n) (by omega)
  rw [if_neg (by omega), if_neg (by omega), if_neg (by omega), if_neg (by omega), if_pos hn']
    at hfirst
  rw [piecesFrom_unfinished hfirst] at h
  obtain ⟨n₂, rest₂, rfl, hlow₂, hhigh₂, h₂⟩ := exists_of_owing rfl h
  obtain ⟨n₃, rest₃, rfl, hlow₃, hhigh₃, h₃⟩ := exists_of_owing rfl h₂
  obtain ⟨n₄, rest', cs', rfl, hlow, hhigh, rfl, hrest⟩ := exists_of_last rfl h₃
  refine ⟨_, cs', _, rest', rfl, ?_, hrest⟩
  rw [apply_ite UInt8.toNat] at hlow₂ hhigh₂
  rw [encode_four hn hn' hlow₂ hhigh₂ hlow₃ hhigh₃ hlow hhigh]
  rfl

/-- No character starts with one of the other octets. -/
theorem piecesFrom_malformed (hn : n < 256) (hout : 0x80 ≤ n ∧ n < 0xC2 ∨ 0xF5 ≤ n) :
    piecesFrom offset none (UInt8.ofNat n :: rest) ≠ cs.map .character := by
  intro h
  have hfirst : First.of (UInt8.ofNat n) = .malformed := by
    rw [first_of_ofNat hn]
    split_ifs <;> first | rfl | omega
  simp only [piecesFrom, step, begin, hfirst] at h
  cases cs <;> cases h

/-- Octets that are read without a malformed run start with those of the first character read. -/
theorem spells_of_piecesFrom {b : UInt8}
    (h : piecesFrom offset none (b :: rest) = cs.map .character) : Spells (b :: rest) cs := by
  obtain ⟨n, hn, rfl⟩ : ∃ n < 256, UInt8.ofNat n = b := ⟨b.toNat, b.toNat_lt, UInt8.ofNat_toNat⟩
  by_cases hout : 0x80 ≤ n ∧ n < 0xC2 ∨ 0xF5 ≤ n
  · exact absurd h (piecesFrom_malformed hn hout)
  by_cases h₁ : n < 0x80
  · exact spells_one h₁ h
  by_cases h₂ : n < 0xE0
  · exact spells_two (by omega) h₂ h
  by_cases h₃ : n < 0xF0
  · exact spells_three (by omega) h₃ h
  · exact spells_four (by omega) (by omega) h

/-- Octets that are read without a malformed run are those of the characters read. -/
theorem eq_flatMap_of_piecesFrom :
    ∀ {cs : List Char} {offset : Nat} {octets : List UInt8},
      piecesFrom offset none octets = cs.map .character →
        octets = cs.flatMap String.utf8EncodeChar
  | [], _, [], _ => rfl
  | _ :: _, _, [], h => nomatch h
  | _, _, b :: rest, h => by
    obtain ⟨c, cs', offset', rest', rfl, hb, hrest⟩ := spells_of_piecesFrom h
    rw [hb, List.flatMap_cons, ← eq_flatMap_of_piecesFrom hrest]

end Converse

theorem characters_eq_ok_iff {ps : List Piece} {cs : List Char} :
    characters ps = .ok cs ↔ ps = cs.map .character := by
  constructor
  · intro h
    induction ps generalizing cs with
    | nil =>
      obtain rfl := Except.ok.inj h
      rfl
    | cons p ps ih =>
      cases p with
      | malformed => cases h
      | character c =>
        rw [characters] at h
        rcases hps : characters ps with e | cs'
        · rw [hps] at h
          cases h
        · rw [hps] at h
          obtain rfl := Except.ok.inj h
          rw [ih hps, List.map_cons]
  · rintro rfl
    exact characters_map cs

/-- The strict reading takes exactly the octets of texts. -/
theorem decode_eq_ok_iff {octets : List UInt8} {s : String} :
    decode octets = .ok s ↔ octets = encode s := by
  constructor
  · intro h
    unfold decode at h
    rcases hcs : characters (pieces octets) with e | cs
    · rw [hcs] at h
      cases h
    · rw [hcs] at h
      obtain rfl := Except.ok.inj h
      rw [encode, String.toList_ofList, ← eq_flatMap_of_piecesFrom (characters_eq_ok_iff.1 hcs)]
  · rintro rfl
    exact decode_encode s

/-- Where no run of octets is malformed the lossy reading is the strict one. -/
@[simp]
theorem decodeLossy_encode (s : String) : decodeLossy (encode s) = s := by
  rw [decodeLossy, pieces, encode, piecesFrom_encode, List.map_map]
  exact (congrArg String.ofList (List.map_id _)).trans String.ofList_toList

end GuestImage.Utf8
