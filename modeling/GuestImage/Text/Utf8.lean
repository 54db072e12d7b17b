import GuestImage.Text.Quoted

/-!
# UTF-8

`encode` writes a text in octets. `pieces` reads octets with a machine that takes one octet at a
time: a piece is a character, or a malformed run of octets that no character starts with or goes
on with. Two readings stand on the pieces: a strict one that refuses the first malformed run and
says where it is, and a lossy one that puts U+FFFD in the place of each.
-/

namespace GuestImage.Utf8

/-- The octets of a text. -/
def encode (s : String) : List UInt8 :=
  s.toList.flatMap String.utf8EncodeChar

/-- Why octets are malformed. -/
inductive Malformation where
  /-- No character starts with the octet. -/
  | start
  /-- The next octet does not go on with the character that was started. -/
  | continuation
  /-- The octets end inside a character. -/
  | ending
  deriving DecidableEq, Repr

/-- What is said of a malformation. -/
def Malformation.message : Malformation → String
  | .start => "invalid start byte"
  | .continuation => "invalid continuation byte"
  | .ending => "unexpected end of data"

/-- A character, or a malformed run of octets and where it starts. -/
inductive Piece where
  | character (c : Char)
  | malformed (offset : Nat) (octets : List UInt8) (why : Malformation)
  deriving DecidableEq, Repr

/-- A character of which the first octets were read: how many are owed, the least and the greatest
value of the next one, the bits so far, and the octets read, last one first. -/
structure Unfinished where
  owed : Nat
  low : UInt8
  high : UInt8
  bits : Nat
  octets : List UInt8
  deriving DecidableEq, Repr

/-- What an octet in the place of a first octet starts, the octet itself if it is no first octet. -/
inductive First where
  | character (c : Char)
  | unfinished (u : Unfinished)
  | malformed
  deriving DecidableEq, Repr

/-- The classes of first octets. The bounds on the octet after it leave out what has a shorter
form, the surrogates, and what lies past the last code point. -/
def First.of (b : UInt8) : First :=
  if b < 0x80 then .character (Char.ofNat b.toNat)
  else if b < 0xC2 then .malformed
  else if b < 0xE0 then .unfinished ⟨1, 0x80, 0xBF, b.toNat - 0xC0, [b]⟩
  else if b < 0xF0 then
    .unfinished ⟨2, if b = 0xE0 then 0xA0 else 0x80, if b = 0xED then 0x9F else 0xBF,
      b.toNat - 0xE0, [b]⟩
  else if b < 0xF5 then
    .unfinished ⟨3, if b = 0xF0 then 0x90 else 0x80, if b = 0xF4 then 0x8F else 0xBF,
      b.toNat - 0xF0, [b]⟩
  else .malformed

/-- An octet in the place of a first octet: the pieces it ends, and the character it starts. -/
def begin (offset : Nat) (b : UInt8) : List Piece × Option Unfinished :=
  match First.of b with
  | .character c => ([.character c], none)
  | .unfinished u => ([], some u)
  | .malformed => ([.malformed offset [b] .start], none)

/-- One octet: the pieces it ends, and the character that is unfinished after it. `offset` is the
place of the octet. -/
def step (offset : Nat) : Option Unfinished → UInt8 → List Piece × Option Unfinished
  | none, b => begin offset b
  | some u, b =>
    if u.low ≤ b && b ≤ u.high then
      let bits := u.bits * 64 + (b.toNat - 0x80)
      match u.owed with
      | 0 | 1 => ([.character (Char.ofNat bits)], none)
      | owed + 2 => ([], some ⟨owed + 1, 0x80, 0xBF, bits, b :: u.octets⟩)
    else
      let (ended, u') := begin offset b
      (.malformed (offset - u.octets.length) u.octets.reverse .continuation :: ended, u')

/-- The pieces of octets that go on with the character `u`. -/
def piecesFrom (offset : Nat) : Option Unfinished → List UInt8 → List Piece
  | none, [] => []
  | some u, [] => [.malformed (offset - u.octets.length) u.octets.reverse .ending]
  | u, b :: rest => (step offset u b).1 ++ piecesFrom (offset + 1) (step offset u b).2 rest

/-- The pieces of octets. -/
def pieces (octets : List UInt8) : List Piece :=
  piecesFrom 0 none octets

/-- The lossy reading: U+FFFD stands for each malformed run. -/
def decodeLossy (octets : List UInt8) : String :=
  String.ofList ((pieces octets).map fun
    | .character c => c
    | .malformed .. => '\uFFFD')

/-- What is said of a malformed run of octets. -/
def malformedMessage (offset : Nat) (octets : List UInt8) (why : Malformation) : String :=
  match octets with
  | [b] =>
    "'utf-8' codec can't decode byte 0x" ++ String.ofList (Text.hexDigits 2 b.toNat) ++
      " in position " ++ toString offset ++ ": " ++ why.message
  | _ =>
    "'utf-8' codec can't decode bytes in position " ++ toString offset ++ "-" ++
      toString (offset + octets.length - 1) ++ ": " ++ why.message

/-- The characters of pieces, or what is said of the first malformed run. -/
def characters : List Piece → Except String (List Char)
  | [] => .ok []
  | .character c :: rest => (characters rest).map (c :: ·)
  | .malformed offset octets why :: _ => .error (malformedMessage offset octets why)

/-- The strict reading: the text, or what is said of the first malformed run. -/
def decode (octets : List UInt8) : Except String String :=
  (characters (pieces octets)).map String.ofList

end GuestImage.Utf8
