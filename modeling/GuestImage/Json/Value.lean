/-!
# JSON values

The values that records and reports are made of: JSON without fractions, with integers of any
size. Members keep the order they were given in; `sorted` puts those of every object in the order
of their names.
-/

namespace GuestImage.Json

/-- A JSON value whose numbers are integers. -/
inductive Value where
  | null
  | bool (b : Bool)
  | int (n : Int)
  | text (s : String)
  | list (items : List Value)
  | object (members : List (String × Value))
  deriving Repr

instance : Inhabited Value := ⟨.null⟩

/-- A text, or null in the place of none. -/
def Value.ofText? : Option String → Value
  | none => .null
  | some s => .text s

/-- Puts a member before the first one with a greater name. -/
def insertMember (m : String × Value) : List (String × Value) → List (String × Value)
  | [] => [m]
  | m' :: rest => if m.1 < m'.1 then m :: m' :: rest else m' :: insertMember m rest

mutual

/-- The value with the members of every object in the order of their names. -/
def Value.sorted : Value → Value
  | .list items => .list (sortedItems items)
  | .object members => .object (sortedMembers members)
  | v => v

/-- Sorts inside every item. -/
def sortedItems : List Value → List Value
  | [] => []
  | v :: rest => v.sorted :: sortedItems rest

/-- Sorts inside every member, and the members themselves. -/
def sortedMembers : List (String × Value) → List (String × Value)
  | [] => []
  | (name, v) :: rest => insertMember (name, v.sorted) (sortedMembers rest)

end

theorem insertMember_perm (m : String × Value) :
    ∀ l : List (String × Value), (insertMember m l).Perm (m :: l)
  | [] => .refl _
  | m' :: rest => by
    simp only [insertMember]
    split
    · exact .refl _
    · exact ((insertMember_perm m rest).cons m').trans (.swap m m' rest)

theorem length_sortedMembers : ∀ l : List (String × Value), (sortedMembers l).length = l.length
  | [] => rfl
  | (name, v) :: rest => by
    rw [sortedMembers, (insertMember_perm _ _).length_eq, List.length_cons, List.length_cons,
      length_sortedMembers rest]

end GuestImage.Json
