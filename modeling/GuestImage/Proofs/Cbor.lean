import GuestImage.Cbor.Decoder
import GuestImage.Proofs.Utf8
import Mathlib.Algebra.Group.Nat.Defs
import Mathlib.Data.List.Forall2
import Mathlib.Tactic.SplitIfs

/-!
# Reading CBOR back

What is written is read as what was written, whatever octets come after it: a head in each of its
five forms (`headFrom_head`), an integer of any size (`reads_encodeInt`), a text
(`reads_encodeText`) and a map with its members in the canonical order (`reads_encode`). An item can
be written if each length in it fits the 64 bits of a head (`Item.writable`).
-/

namespace GuestImage.Cbor

/-- The natural number that an integer is written by: a negative one by its distance from -1. -/
def magnitude (z : Int) : Nat :=
  if z < 0 then (-1 - z).toNat else z.toNat

mutual

/-- Whether every length in an item fits a head, whose argument has 64 bits at most. -/
def Item.writable : Item → Bool
  | .int z => octetCount (magnitude z) < 2 ^ 64
  | .bool _ => true
  | .text s => (Utf8.encode s).length < 2 ^ 64
  | .map members => members.length < 2 ^ 64 && writableMembers members

/-- Whether every length in the members fits a head. -/
def writableMembers : List (String × Item) → Bool
  | [] => true
  | (name, v) :: rest => (Utf8.encode name).length < 2 ^ 64 && v.writable && writableMembers rest

end

section Octets

@[simp]
theorem length_octetsOf (width : Nat) : ∀ n, (octetsOf width n).length = width := by
  induction width with
  | zero => exact fun _ => rfl
  | succ width ih => simp [octetsOf, ih]

theorem numberOf_concat (s : List UInt8) (b : UInt8) :
    numberOf (s ++ [b]) = numberOf s * 256 + b.toNat := by
  simp [numberOf]

theorem numberOf_octetsOf (width : Nat) :
    ∀ {n}, n < 256 ^ width → numberOf (octetsOf width n) = n := by
  induction width with
  | zero =>
    intro n hn
    obtain rfl : n = 0 := by simpa using hn
    rfl
  | succ width ih =>
    intro n hn
    have hhigh : n / 256 < 256 ^ width :=
      Nat.div_lt_of_lt_mul (by rwa [Nat.mul_comm, ← Nat.pow_succ])
    have hlow : (UInt8.ofNat n).toNat = n % 256 := by simp
    rw [octetsOf, numberOf_concat, ih hhigh, hlow]
    omega

theorem lt_pow_octetCount (n : Nat) : n < 256 ^ octetCount n := by
  rw [octetCount]
  split_ifs with h
  · omega
  · have ih := lt_pow_octetCount (n / 256)
    rw [Nat.pow_succ]
    omega
termination_by n

theorem split?_append (s rest : List UInt8) : split? s.length (s ++ rest) = some (s, rest) := by
  simp [split?]

theorem split?_octetsOf (width n : Nat) (rest : List UInt8) :
    split? width (octetsOf width n ++ rest) = some (octetsOf width n, rest) := by
  have hsplit := split?_append (octetsOf width n) rest
  rwa [length_octetsOf] at hsplit

end Octets

section Heads

variable {major argument : Nat}

theorem head_length_pos (major argument : Nat) : 0 < (head major argument).length := by
  unfold head
  split_ifs <;> simp

theorem headFrom_wide {info width : Nat} (hmajor : major < 8) (hwide : 24 ≤ info)
    (hinfo : info < 32) (hwidth : argumentWidth? info = some width) (h : argument < 256 ^ width)
    (rest : List UInt8) :
    headFrom (UInt8.ofNat (major * 32 + info) :: octetsOf width argument ++ rest) =
      some (major, argument, rest) := by
  have hfirst : (UInt8.ofNat (major * 32 + info)).toNat = major * 32 + info :=
    UInt8.toNat_ofNat_of_lt' (show _ < 256 by omega)
  have hkind : (major * 32 + info) / 32 = major := by omega
  have hrest : (major * 32 + info) % 32 = info := by omega
  rw [List.cons_append, headFrom, hfirst, hkind, hrest, if_neg (by omega), hwidth]
  dsimp only
  rw [split?_octetsOf, Option.map_some, numberOf_octetsOf width h]

theorem headFrom_head (hmajor : major < 8) (h : argument < 2 ^ 64) (rest : List UInt8) :
    headFrom (head major argument ++ rest) = some (major, argument, rest) := by
  unfold head
  split_ifs
  · have hfirst : (UInt8.ofNat (major * 32 + argument)).toNat = major * 32 + argument :=
      UInt8.toNat_ofNat_of_lt' (show _ < 256 by omega)
    have hkind : (major * 32 + argument) / 32 = major := by omega
    have hrest : (major * 32 + argument) % 32 = argument := by omega
    rw [List.singleton_append, headFrom, hfirst, hkind, hrest, if_pos ‹_›]
  · exact headFrom_wide hmajor (by omega) (by omega) rfl (by omega) rest
  · exact headFrom_wide hmajor (by omega) (by omega) rfl (by omega) rest
  · exact headFrom_wide hmajor (by omega) (by omega) rfl (by omega) rest
  · exact headFrom_wide hmajor (by omega) (by omega) rfl (by omega) rest

end Heads

/-- Octets are read as an item, whatever comes after them. A step for each octet is enough. -/
def Reads (octets : List UInt8) (v : Item) : Prop :=
  ∀ steps rest, octets.length ≤ steps → itemFrom steps (octets ++ rest) = some (v, rest)

/-- The octets of a member's name and value are read as the member. -/
structure ReadsMember (octets : List UInt8 × List UInt8) (m : String × Item) : Prop where
  name : octets.1 = encodeText m.1
  short : (Utf8.encode m.1).length < 2 ^ 64
  value : Reads octets.2 m.2

section Items

variable {octets : List UInt8} {v : Item}

theorem Reads.length_pos (h : Reads octets v) : 0 < octets.length := by
  rcases octets with _ | ⟨b, octets⟩
  · exact absurd (h 0 [] (Nat.le_refl 0)) (by simp [itemFrom])
  · simp

theorem reads_of_head {major argument : Nat} {more : List UInt8} (hmajor : major < 8)
    (hargument : argument < 2 ^ 64)
    (h : ∀ steps rest, more.length ≤ steps →
      ∀ s, headFrom s = some (major, argument, more ++ rest) →
        itemFrom (steps + 1) s = some (v, rest)) :
    Reads (head major argument ++ more) v := by
  intro steps rest hsteps
  have hhead := head_length_pos major argument
  rw [List.length_append] at hsteps
  obtain ⟨steps, rfl⟩ : ∃ n, steps = n + 1 := ⟨steps - 1, by omega⟩
  refine h steps rest (by omega) _ ?_
  rw [List.append_assoc, headFrom_head hmajor hargument]

theorem bigFrom_octetsOf {n : Nat} (h : octetCount n < 2 ^ 64) (rest : List UInt8) :
    bigFrom (head 2 (octetCount n) ++ (octetsOf (octetCount n) n ++ rest)) = some (n, rest) := by
  simp only [bigFrom, headFrom_head (show 2 < 8 by omega) h, split?_octetsOf, Option.map_some,
    numberOf_octetsOf _ (lt_pow_octetCount n)]

/-- A number is read from a head of its own, or from the octets after a tag. -/
theorem reads_encodeNat {major tag n : Nat} {z : Int} (hmajor : major < 8) (htag : tag < 24)
    (hcount : octetCount n < 2 ^ 64)
    (hown : ∀ steps s rest, headFrom s = some (major, n, rest) →
      itemFrom (steps + 1) s = some (.int z, rest))
    (hbig : ∀ steps s more rest, headFrom s = some (6, tag, more) → bigFrom more = some (n, rest) →
      itemFrom (steps + 1) s = some (.int z, rest)) :
    Reads (encodeNat major tag n) (.int z) := by
  unfold encodeNat
  split_ifs with h
  · rw [← List.append_nil (head major n)]
    exact reads_of_head hmajor h fun steps rest _ s hs => hown steps s rest hs
  · rw [List.append_assoc]
    refine reads_of_head (by omega) (by omega) fun steps rest _ s hs => ?_
    refine hbig steps s _ rest hs ?_
    rw [List.append_assoc, bigFrom_octetsOf hcount]

theorem reads_encodeInt {z : Int} (h : octetCount (magnitude z) < 2 ^ 64) :
    Reads (encodeInt z) (.int z) := by
  unfold encodeInt
  unfold magnitude at h
  split_ifs at h ⊢ with hneg
  · have hz : -1 - ((-1 - z).toNat : Int) = z := by omega
    refine reads_encodeNat (by omega) (by omega) h (fun steps s rest hs => ?_)
      fun steps s more rest hs hbig => ?_
    · simp only [itemFrom, hs, hz]
    · simp only [itemFrom, hs, hbig, Option.map_some, hz]
  · have hz : (z.toNat : Int) = z := by omega
    refine reads_encodeNat (by omega) (by omega) h (fun steps s rest hs => ?_)
      fun steps s more rest hs hbig => ?_
    · simp only [itemFrom, hs, hz]
    · simp only [itemFrom, hs, hbig, Option.map_some, hz]

theorem reads_bool (b : Bool) : Reads (encode (.bool b)) (.bool b) := by
  have hheads : encode (.bool true) = head 7 21 ∧ encode (.bool false) = head 7 20 := ⟨rfl, rfl⟩
  cases b with
  | true =>
    rw [hheads.1, ← List.append_nil (head 7 21)]
    refine reads_of_head (by omega) (by omega) fun steps rest _ s hs => ?_
    simp only [itemFrom, hs, List.nil_append]
  | false =>
    rw [hheads.2, ← List.append_nil (head 7 20)]
    refine reads_of_head (by omega) (by omega) fun steps rest _ s hs => ?_
    simp only [itemFrom, hs, List.nil_append]

theorem textOf?_encode (s : String) (rest : List UInt8) :
    textOf? (Utf8.encode s).length (Utf8.encode s ++ rest) = some (s, rest) := by
  simp only [textOf?, split?_append, Utf8.decode_encode]

theorem textFrom_encodeText {s : String} (h : (Utf8.encode s).length < 2 ^ 64)
    (rest : List UInt8) : textFrom (encodeText s ++ rest) = some (s, rest) := by
  simp only [textFrom, encodeText, List.append_assoc, headFrom_head (show 3 < 8 by omega) h,
    textOf?_encode]

theorem reads_encodeText {s : String} (h : (Utf8.encode s).length < 2 ^ 64) :
    Reads (encodeText s) (.text s) := by
  refine reads_of_head (by omega) h fun steps rest _ octets hoctets => ?_
  simp only [itemFrom, hoctets, textOf?_encode, Option.map_some]

end Items

section Members

variable {encoded : List (List UInt8 × List UInt8)} {members : List (String × Item)}

theorem membersFrom_concatMembers (h : List.Forall₂ ReadsMember encoded members) :
    ∀ steps rest, (concatMembers encoded).length ≤ steps →
      membersFrom steps encoded.length (concatMembers encoded ++ rest) = some (members, rest) := by
  induction h with
  | nil =>
    intro steps rest _
    cases steps <;> rfl
  | @cons e m encoded members hm _ ih =>
    obtain ⟨name, octets⟩ := e
    obtain ⟨hname, hshort, hvalue⟩ := hm
    intro steps rest hsteps
    simp only [concatMembers, List.length_append] at hsteps hname hshort hvalue
    have hpos := hvalue.length_pos
    obtain ⟨steps, rfl⟩ : ∃ n, steps = n + 1 := ⟨steps - 1, by omega⟩
    obtain rfl : name = encodeText m.1 := hname
    have hnamepos := (reads_encodeText hshort).length_pos
    simp only [concatMembers, List.length_cons, membersFrom, List.append_assoc,
      textFrom_encodeText hshort, hvalue steps _ (by omega), ih steps rest (by omega),
      Option.map_some]

end Members

/-- Puts a member before the first one whose encoded name is later. -/
def insertNamed (m : String × Item) : List (String × Item) → List (String × Item)
  | [] => [m]
  | m' :: rest =>
    if nameBefore (encodeText m.1) (encodeText m'.1) then m :: m' :: rest
    else m' :: insertNamed m rest

mutual

/-- The item with the members of every map in the order of their encoded names. -/
def Item.canonical : Item → Item
  | .map members => .map (canonicalMembers members)
  | v => v

/-- The members in the order of their encoded names, and those of every map inside them. -/
def canonicalMembers : List (String × Item) → List (String × Item)
  | [] => []
  | (name, v) :: rest => insertNamed (name, v.canonical) (canonicalMembers rest)

end

section Canonical

variable {encoded : List (List UInt8 × List UInt8)} {members : List (String × Item)}
  {e : List UInt8 × List UInt8} {m : String × Item}

theorem insertNamed_perm (m : String × Item) :
    ∀ members, (insertNamed m members).Perm (m :: members)
  | [] => .refl _
  | m' :: rest => by
    rw [insertNamed]
    split_ifs
    · exact .refl _
    · exact ((insertNamed_perm m rest).cons m').trans (.swap m m' rest)

theorem forall₂_insertMember (hm : ReadsMember e m) (h : List.Forall₂ ReadsMember encoded members) :
    List.Forall₂ ReadsMember (insertMember e encoded) (insertNamed m members) := by
  induction h with
  | nil => exact .cons hm .nil
  | @cons e' m' encoded members hm' hrest ih =>
    rw [insertMember, insertNamed, hm.name, hm'.name]
    split_ifs
    · exact .cons hm (.cons hm' hrest)
    · exact .cons hm' ih

theorem length_insertMember (e : List UInt8 × List UInt8) :
    ∀ encoded, (insertMember e encoded).length = encoded.length + 1
  | [] => rfl
  | e' :: rest => by
    have ih := length_insertMember e rest
    rw [insertMember]
    split_ifs <;> simp [ih]

theorem length_encodeMembers : ∀ members : List (String × Item),
    (encodeMembers members).length = members.length
  | [] => rfl
  | (name, v) :: rest => by
    rw [encodeMembers, length_insertMember, length_encodeMembers rest, List.length_cons]

theorem canonicalMembers_perm : ∀ members : List (String × Item),
    (canonicalMembers members).Perm (members.map fun m => (m.1, m.2.canonical))
  | [] => .refl _
  | (name, v) :: members => by
    rw [canonicalMembers, List.map_cons]
    exact (insertNamed_perm _ _).trans ((canonicalMembers_perm members).cons _)

mutual

theorem reads_encode : ∀ v : Item, v.writable = true → Reads (encode v) v.canonical
  | .int _, h => reads_encodeInt (of_decide_eq_true h)
  | .bool b, _ => reads_bool b
  | .text _, h => reads_encodeText (of_decide_eq_true h)
  | .map members, h => by
    rw [Item.writable, Bool.and_eq_true, decide_eq_true_eq] at h
    have hmembers := forall₂_encodeMembers members h.2
    rw [encode, Item.canonical]
    refine reads_of_head (by omega) h.1 fun steps rest hsteps s hs => ?_
    have hread := membersFrom_concatMembers hmembers steps rest hsteps
    rw [length_encodeMembers] at hread
    simp only [itemFrom, hs, hread, Option.map_some]

theorem forall₂_encodeMembers : ∀ members : List (String × Item),
    writableMembers members = true →
      List.Forall₂ ReadsMember (encodeMembers members) (canonicalMembers members)
  | [], _ => .nil
  | (name, v) :: rest, h => by
    rw [writableMembers, Bool.and_eq_true, Bool.and_eq_true, decide_eq_true_eq] at h
    obtain ⟨⟨hname, hv⟩, hrest⟩ := h
    rw [encodeMembers, canonicalMembers]
    exact forall₂_insertMember ⟨rfl, hname, reads_encode v hv⟩ (forall₂_encodeMembers rest hrest)

end

theorem decode?_encode {v : Item} (h : v.writable = true) :
    decode? (encode v) = some v.canonical := by
  have hread := reads_encode v h ((encode v).length + 1) [] (by omega)
  rw [List.append_nil] at hread
  rw [decode?, hread]

end Canonical

end GuestImage.Cbor
