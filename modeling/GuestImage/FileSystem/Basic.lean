import GuestImage.Path

/-!
# Files

A file system is a finite map from places to entries. A place is the chain of names from an entry
up to the top, so the place of an entry's directory is its tail. A file may end in a hole: zeros
that take no room. What is changed at one place is not seen at another (`get?_insert`,
`get?_erase`).

Every entry belongs to the one who works on it. He has the rights that its mode gives to its owner,
and no others.
-/

namespace GuestImage

/-- The names from an entry outwards; the empty one is the top. -/
abbrev Place := List String

/-- The content of a file: octets, and a hole of zeros after them. -/
structure Content where
  octets : List UInt8
  hole : Nat
  deriving DecidableEq, Repr

namespace Content

/-- Nothing at all. -/
def empty : Content := ⟨[], 0⟩

/-- The octets of a content, those of its hole written out. -/
def toList (c : Content) : List UInt8 :=
  c.octets ++ List.replicate c.hole 0

/-- The number of octets. -/
def size (c : Content) : Nat :=
  c.octets.length + c.hole

/-- The first `n` octets, or all of them and a longer hole. -/
def resize (c : Content) (n : Nat) : Content :=
  if n ≤ c.octets.length then ⟨c.octets.take n, 0⟩ else ⟨c.octets, n - c.octets.length⟩

@[simp]
theorem length_toList (c : Content) : c.toList.length = c.size := by
  simp [toList, size]

@[simp]
theorem size_resize (c : Content) (n : Nat) : (c.resize n).size = n := by
  unfold resize size
  split
  · simp; omega
  · simp; omega

@[simp]
theorem toList_resize_empty (n : Nat) : (empty.resize n).toList = List.replicate n 0 := by
  cases n <;> simp [resize, toList, empty]

theorem toList_resize (c : Content) (n : Nat) :
    (c.resize n).toList = c.toList.take n ++ List.replicate (n - c.size) 0 := by
  unfold resize toList size
  split
  · rename_i h
    have : n - (c.octets.length + c.hole) = 0 := by omega
    simp [List.take_append_of_le_length h, this]
  · rename_i h
    rw [List.take_append, List.take_of_length_le (by omega), List.take_replicate,
      List.append_assoc, List.replicate_append_replicate]
    simp only
    congr 2
    omega

end Content

/-- What a place holds. -/
inductive Entry where
  | directory (mode : Nat)
  | file (mode : Nat) (content : Content)
  | link (target : String)
  deriving DecidableEq, Repr

/-- A right of the owner of an entry. To search a directory is to reach what it holds. -/
inductive Right where
  | read
  | write
  | search
  deriving DecidableEq, Repr

/-- The bit of a mode that gives a right. -/
def Right.bit : Right → Nat
  | .read => 0o400
  | .write => 0o200
  | .search => 0o100

namespace Entry

/-- Whether the owner of an entry has a right. Links have no mode and refuse nothing. -/
def permits : Entry → Right → Bool
  | .directory mode, right | .file mode _, right => mode &&& right.bit != 0
  | .link _, _ => true

/-- Whether an entry is a directory. -/
def isDirectory : Entry → Bool
  | .directory _ => true
  | _ => false

/-- Whether an entry is a file that is not empty. -/
def isNonEmptyFile : Entry → Bool
  | .file _ c => decide (0 < c.size)
  | _ => false

end Entry

/-- Entries at places, and the directory that relative paths start from. -/
structure FileSystem where
  entries : List (Place × Entry)
  workDir : Place
  deriving Repr

namespace FileSystem

/-- The entry at a place. -/
def get? (fs : FileSystem) (p : Place) : Option Entry :=
  fs.entries.lookup p

/-- Whether the entry at a place gives a right; where there is none, nothing refuses it. -/
def permits (fs : FileSystem) (p : Place) (right : Right) : Bool :=
  match fs.get? p with
  | some e => e.permits right
  | none => true

/-- Without the entry at a place. -/
def erase (fs : FileSystem) (p : Place) : FileSystem :=
  { fs with entries := fs.entries.filter fun x => x.1 ≠ p }

/-- With an entry at a place. -/
def insert (fs : FileSystem) (p : Place) (e : Entry) : FileSystem :=
  { fs with entries := (p, e) :: (fs.erase p).entries }

/-- The top is a directory, and so is what holds an entry. -/
structure WellFormed (fs : FileSystem) : Prop where
  top : ∃ mode, fs.get? [] = some (.directory mode)
  parent : ∀ name dir e, fs.get? (name :: dir) = some e →
    ∃ mode, fs.get? dir = some (.directory mode)

/-- A directory at a place and at every place around it. -/
def directoriesTo : Place → List (Place × Entry)
  | [] => [([], .directory 0o755)]
  | name :: dir => (name :: dir, .directory 0o755) :: directoriesTo dir

/-- A working directory at a place, and the directories around it. -/
def bare (workDir : Place) : FileSystem :=
  ⟨directoriesTo workDir, workDir⟩

theorem lookup_filter_eq_none {p : Place} {f : Place × Entry → Bool} (hf : ∀ e, f (p, e) = false)
    (l : List (Place × Entry)) : (l.filter f).lookup p = none := by
  rw [List.lookup_eq_none_iff]
  rintro ⟨q, e⟩ hx
  have hq : f (q, e) = true := (List.mem_filter.1 hx).2
  by_cases h : p = q
  · subst h
    simp [hf] at hq
  · simpa using h

theorem lookup_filter {p : Place} {f : Place × Entry → Bool} (hf : ∀ e, f (p, e) = true) :
    ∀ l : List (Place × Entry), (l.filter f).lookup p = l.lookup p
  | [] => rfl
  | (q, e) :: rest => by
    by_cases h : p = q
    · subst h
      simp [hf]
    · have hq : (p == q) = false := by simpa using h
      rw [List.filter_cons]
      split <;> simp [List.lookup_cons, hq, lookup_filter hf rest]

theorem mem_entries_of_get? {fs : FileSystem} {p : Place} {e : Entry} (h : fs.get? p = some e) :
    (p, e) ∈ fs.entries := by
  obtain ⟨before, after, heq, -⟩ := List.lookup_eq_some_iff.1 h
  simp [heq]

theorem get?_erase (fs : FileSystem) (p q : Place) :
    (fs.erase p).get? q = if q = p then none else fs.get? q := by
  split
  · rename_i h
    exact lookup_filter_eq_none (by simp [h]) _
  · rename_i h
    exact lookup_filter (by simp [h]) _

theorem get?_insert (fs : FileSystem) (p q : Place) (e : Entry) :
    (fs.insert p e).get? q = if q = p then some e else fs.get? q := by
  unfold insert get?
  rw [List.lookup_cons]
  split
  · rename_i h
    simp [eq_of_beq h]
  · rename_i h
    have h : q ≠ p := by simpa using h
    rw [if_neg h]
    exact (get?_erase fs p q).trans (if_neg h)

@[simp]
theorem workDir_insert (fs : FileSystem) (p : Place) (e : Entry) :
    (fs.insert p e).workDir = fs.workDir := rfl

@[simp]
theorem workDir_erase (fs : FileSystem) (p : Place) : (fs.erase p).workDir = fs.workDir := rfl

end FileSystem

end GuestImage
