import GuestImage.Json.Value

/-!
# The context of a failure

A context says of a failure what was being done and to what, as an ordered map from keys to texts.
An empty text counts as not known: `annotate` fills it in its place, appends a key that is not
there, and never changes a text that is known.
-/

namespace GuestImage

/-- An ordered map from keys to texts. -/
structure Context where
  pairs : List (String × String) := []
  deriving DecidableEq, Repr, Inhabited

namespace Context

/-- The text of a key. -/
def get? (c : Context) (key : String) : Option String :=
  c.pairs.lookup key

/-- The keys in their order. -/
def keys (c : Context) : List String :=
  c.pairs.map Prod.fst

/-- Pairs in which a key has a text: in the place it stands in, or else at the end. -/
def put (key value : String) : List (String × String) → List (String × String)
  | [] => [(key, value)]
  | (k, v) :: rest => if k = key then (k, value) :: rest else (k, v) :: put key value rest

/-- The map from pairs: a key stands where it occurs first and has the text it occurs with last. -/
def ofPairs (pairs : List (String × String)) : Context :=
  ⟨pairs.foldl (fun acc p => put p.1 p.2 acc) []⟩

/-- Pairs in which a key that had no text, or an empty one, has the given one. -/
def fill (key value : String) : List (String × String) → List (String × String)
  | [] => [(key, value)]
  | (k, v) :: rest =>
    if k = key then (k, if v.isEmpty then value else v) :: rest else (k, v) :: fill key value rest

/-- Fills in what is not known. -/
def annotate (c : Context) (pairs : List (String × String)) : Context :=
  ⟨pairs.foldl (fun acc p => fill p.1 p.2 acc) c.pairs⟩

@[simp]
theorem annotate_nil (c : Context) : c.annotate [] = c := rfl

theorem annotate_append (c : Context) (ps qs : List (String × String)) :
    c.annotate (ps ++ qs) = (c.annotate ps).annotate qs := by
  simp [annotate]

theorem map_fst_fill (key value : String) :
    ∀ l : List (String × String), (fill key value l).map Prod.fst =
      if key ∈ l.map Prod.fst then l.map Prod.fst else l.map Prod.fst ++ [key]
  | [] => by simp [fill]
  | (k, v) :: rest => by
    by_cases h : k = key
    · simp [fill, h]
    · have ih := map_fst_fill key value rest
      simp only [fill, h, if_false, List.map_cons, ih, List.mem_cons, Ne.symm h, false_or]
      split <;> simp

theorem lookup_fill_self (key value : String) :
    ∀ l : List (String × String), (fill key value l).lookup key =
      some (match l.lookup key with
        | none => value
        | some known => if known.isEmpty then value else known)
  | [] => by simp [fill]
  | (k, v) :: rest => by
    by_cases h : k = key
    · simp [fill, h]
    · have hkey : (key == k) = false := by simpa using Ne.symm h
      simp only [fill, h, if_false, List.lookup_cons, hkey]
      exact lookup_fill_self key value rest

theorem lookup_fill_of_ne {k key : String} (value : String) (hk : k ≠ key) :
    ∀ l : List (String × String), (fill key value l).lookup k = l.lookup k
  | [] => by simp [fill, hk]
  | (k', v) :: rest => by
    by_cases h : k' = key
    · have hkey : (k == k') = false := by simpa [h] using hk
      simp only [fill, h, if_true, List.lookup_cons]
      rw [← h, hkey]
    · simp only [fill, h, if_false, List.lookup_cons, lookup_fill_of_ne value hk rest]

/-- The context as a JSON object. -/
def toJson (c : Context) : Json.Value :=
  .object (c.pairs.map fun p => (p.1, .text p.2))

end Context

end GuestImage
