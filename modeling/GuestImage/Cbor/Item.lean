import GuestImage.Text.Utf8

/-!
# Canonical CBOR

The items reports are made of, and the one canonical form of each: a head is as short as its
argument allows, an integer outside the range of 64 bits is a tagged string of octets without
leading zeros, a text is counted in octets of UTF-8, and the members of a map stand in the order
of their encoded names, shorter ones first and equally long ones by their octets.
-/

namespace GuestImage.Cbor

/-- A CBOR item. -/
inductive Item where
  | int (n : Int)
  | bool (b : Bool)
  | text (s : String)
  | map (members : List (String × Item))
  deriving Repr

instance : Inhabited Item := ⟨.bool false⟩

/-- The last `width` octets of `n`, the highest one first. -/
def octetsOf : (width n : Nat) → List UInt8
  | 0, _ => []
  | width + 1, n => octetsOf width (n / 256) ++ [UInt8.ofNat n]

/-- How many octets it takes to write `n`. -/
def octetCount (n : Nat) : Nat :=
  if h : n = 0 then 0 else octetCount (n / 256) + 1
termination_by n

/-- A head: the major type in the upper three bits, then the argument in the shortest of the five
forms that holds it. -/
def head (major argument : Nat) : List UInt8 :=
  if argument < 24 then [UInt8.ofNat (major * 32 + argument)]
  else if argument < 0x100 then UInt8.ofNat (major * 32 + 24) :: octetsOf 1 argument
  else if argument < 0x10000 then UInt8.ofNat (major * 32 + 25) :: octetsOf 2 argument
  else if argument < 0x100000000 then UInt8.ofNat (major * 32 + 26) :: octetsOf 4 argument
  else UInt8.ofNat (major * 32 + 27) :: octetsOf 8 argument

/-- A natural number that 64 bits may be too few for, under a major type for the ones they hold and
a tag for the others. -/
def encodeNat (major tag n : Nat) : List UInt8 :=
  if n < 0x10000000000000000 then head major n
  else head 6 tag ++ head 2 (octetCount n) ++ octetsOf (octetCount n) n

/-- An integer: a negative one by the distance from -1. -/
def encodeInt (z : Int) : List UInt8 :=
  if z < 0 then encodeNat 1 3 (-1 - z).toNat else encodeNat 0 2 z.toNat

/-- A text. -/
def encodeText (s : String) : List UInt8 :=
  head 3 (Utf8.encode s).length ++ Utf8.encode s

/-- Whether an encoded name stands before another: shorter ones first, then by octets. -/
def nameBefore (a b : List UInt8) : Bool :=
  decide (a.length < b.length) || (a.length == b.length && decide (a < b))

/-- Puts an encoded member before the first one with a later name. -/
def insertMember (m : List UInt8 × List UInt8) :
    List (List UInt8 × List UInt8) → List (List UInt8 × List UInt8)
  | [] => [m]
  | m' :: rest => if nameBefore m.1 m'.1 then m :: m' :: rest else m' :: insertMember m rest

/-- The octets of encoded members. -/
def concatMembers : List (List UInt8 × List UInt8) → List UInt8
  | [] => []
  | (name, v) :: rest => name ++ v ++ concatMembers rest

mutual

/-- The octets of an item. -/
def encode : Item → List UInt8
  | .int n => encodeInt n
  | .bool false => [0xF4]
  | .bool true => [0xF5]
  | .text s => encodeText s
  | .map members => head 5 members.length ++ concatMembers (encodeMembers members)

/-- The encoded members in the order of their encoded names. -/
def encodeMembers : List (String × Item) → List (List UInt8 × List UInt8)
  | [] => []
  | (name, v) :: rest => insertMember (encodeText name, encode v) (encodeMembers rest)

end

end GuestImage.Cbor
