import GuestImage.Cbor.Item

/-!
# Reading CBOR

Octets are read as one item of the kinds that are written. A head in a longer form than it needs is
read as well; members are kept in the order they come in.
-/

namespace GuestImage.Cbor

/-- The number that octets stand for, the highest one first. -/
def numberOf (octets : List UInt8) : Nat :=
  octets.foldl (fun n b => n * 256 + b.toNat) 0

/-- The first `n` octets and the rest, if there are so many. -/
def split? (n : Nat) (s : List UInt8) : Option (List UInt8 × List UInt8) :=
  if n ≤ s.length then some (s.take n, s.drop n) else none

/-- How many octets hold the argument of a head, by what its first octet says of it. -/
def argumentWidth? (info : Nat) : Option Nat :=
  if info = 24 then some 1
  else if info = 25 then some 2
  else if info = 26 then some 4
  else if info = 27 then some 8
  else none

/-- The major type and the argument of the head at the start of octets. -/
def headFrom : List UInt8 → Option (Nat × Nat × List UInt8)
  | [] => none
  | b :: rest =>
    if b.toNat % 32 < 24 then some (b.toNat / 32, b.toNat % 32, rest)
    else
      match argumentWidth? (b.toNat % 32) with
      | none => none
      | some width =>
        (split? width rest).map fun p => (b.toNat / 32, numberOf p.1, p.2)

/-- The text of `n` octets. -/
def textOf? (n : Nat) (s : List UInt8) : Option (String × List UInt8) :=
  match split? n s with
  | none => none
  | some (octets, rest) =>
    match Utf8.decode octets with
    | .ok text => some (text, rest)
    | .error _ => none

/-- The text at the start of octets. -/
def textFrom (s : List UInt8) : Option (String × List UInt8) :=
  match headFrom s with
  | some (3, n, rest) => textOf? n rest
  | _ => none

/-- The natural number in the string of octets at the start. -/
def bigFrom (s : List UInt8) : Option (Nat × List UInt8) :=
  match headFrom s with
  | some (2, n, rest) => (split? n rest).map fun p => (numberOf p.1, p.2)
  | _ => none

mutual

/-- The item at the start of octets. The first argument bounds the steps. -/
def itemFrom : Nat → List UInt8 → Option (Item × List UInt8)
  | 0, _ => none
  | steps + 1, s =>
    match headFrom s with
    | some (0, n, rest) => some (.int n, rest)
    | some (1, n, rest) => some (.int (-1 - n), rest)
    | some (3, n, rest) => (textOf? n rest).map fun p => (.text p.1, p.2)
    | some (5, n, rest) => (membersFrom steps n rest).map fun p => (.map p.1, p.2)
    | some (6, 2, rest) => (bigFrom rest).map fun p => (.int p.1, p.2)
    | some (6, 3, rest) => (bigFrom rest).map fun p => (.int (-1 - p.1), p.2)
    | some (7, 20, rest) => some (.bool false, rest)
    | some (7, 21, rest) => some (.bool true, rest)
    | _ => none

/-- The given number of members at the start of octets. -/
def membersFrom : Nat → Nat → List UInt8 → Option (List (String × Item) × List UInt8)
  | _, 0, s => some ([], s)
  | 0, _ + 1, _ => none
  | steps + 1, n + 1, s =>
    match textFrom s with
    | none => none
    | some (name, rest) =>
      match itemFrom steps rest with
      | none => none
      | some (v, rest) => (membersFrom steps n rest).map fun p => ((name, v) :: p.1, p.2)

end

/-- The item of octets. A step for each octet is enough. -/
def decode? (s : List UInt8) : Option Item :=
  match itemFrom (s.length + 1) s with
  | some (v, []) => some v
  | _ => none

end GuestImage.Cbor
