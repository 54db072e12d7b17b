import GuestImage.FileSystem.Lookup

/-!
# Listings

A listing shows what is below a place, each directory before what it holds and the names in it in
the order of their code points: this is the lexicographic order of the names that lead there. It
also shows what is in small files. One who may not look into all of that is shown nothing.
-/

namespace GuestImage.FileSystem

/-- The names that lead from one place to another one below it. -/
def namesBelow (base p : Place) : List String :=
  (p.take (p.length - base.length)).reverse

/-- Whether names come before others in lexicographic order, or are the same. -/
def namesOrdered : List String → List String → Bool
  | [], _ => true
  | _ :: _, [] => false
  | a :: as, b :: bs => decide (a < b) || a == b && namesOrdered as bs

/-- The entries below a place, in order. -/
def entriesBelow (fs : FileSystem) (base : Place) : List (Place × Entry) :=
  (fs.entries.filter fun x => base.isSuffixOf x.1 && x.1 ≠ base).mergeSort fun x y =>
    namesOrdered (namesBelow base x.1) (namesBelow base y.1)

/-- The largest size of a file whose content is shown. -/
def shownSize : Nat := 256

/-- Whether an entry can be shown: it can be got at in the directory it is in, and a directory and a
small file can be read. -/
def isShown (fs : FileSystem) (p : Place) : Entry → Bool
  | .directory mode => fs.permits p.tail .search && (Entry.directory mode).permits .read
  | .file mode c =>
    fs.permits p.tail .search && (decide (shownSize < c.size) || (Entry.file mode c).permits .read)
  | .link _ => fs.permits p.tail .search

/-- What is below the directory at a place: the names that lead there, and the entry. A refusal is
of the first entry that cannot be shown, and names it below the text of the directory. -/
def listing (fs : FileSystem) (text : String) (base : Place) :
    Except Failure (List (List String × Entry)) :=
  if !fs.permits base .read then .error (Obstacle.denied.failure [text])
  else
    let below := fs.entriesBelow base
    match below.find? fun x => !fs.isShown x.1 x.2 with
    | some x =>
      .error (Obstacle.denied.failure
        [Path.joinText text ("/".intercalate (namesBelow base x.1))])
    | none => .ok (below.map fun x => (namesBelow base x.1, x.2))

/-- What is below the directory that a path leads to, or nothing where it leads to none. -/
def listingAt (fs : FileSystem) (text : String) : Except Failure (List (List String × Entry)) :=
  match fs.locate text (.ofText text) .object with
  | .error _ => .ok []
  | .ok target =>
    if target.entry.any Entry.isDirectory then fs.listing text target.place else .ok []

end GuestImage.FileSystem
