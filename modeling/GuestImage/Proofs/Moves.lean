import GuestImage.Proofs.Calls
import Mathlib.Data.List.Induction

/-!
# Moves of a run

A run is made of moves, some of which call a tool, and some of which fail. After one that fails
there are only releases (`Halts`). The failure that is left of all (`survivor`) is the earliest one,
unless a release is interrupted (`survivor_eq`).

The moves of a run account for its events and for its outcome (`Accounts`), and the accounts of two
parts of a run make one of both.
-/

namespace GuestImage

variable {σ α β : Type}

/-- The failure of an outcome, if it is one. -/
def failure? : Except Failure α → Option Failure
  | .ok _ => none
  | .error e => some e

/-- A move of a run: the call that it makes, if it makes one, and its failure, if it fails. -/
structure Move where
  call : Option Call := none
  failure : Option Failure := none
  /-- Whether the move lets go of something that is held. -/
  releases : Bool := false

namespace Move

/-- A move that calls no tool. -/
def quiet (o : Except Failure α) : Move :=
  { failure := failure? o }

/-- A move that calls no tool, and fails. -/
def failing (e : Failure) : Move :=
  { failure := some e }

/-- A move that makes a call. -/
def calling (c : Call) (o : Except Failure α) : Move :=
  { call := some c, failure := failure? o }

/-- A move that lets go of something that is held. -/
def releasing (call : Option Call) (o : Except Failure Unit) : Move :=
  { call, failure := (failure? o).map .escaped, releases := true }

end Move

/-- What is left of two failures, of which the second one came later: the first, unless the other
is an interruption. -/
def outlasting : Option Failure → Option Failure → Option Failure
  | none, later => later
  | some e, none => some e
  | some e, some r => if r.isOrdinary then some e else some r

/-- The failure that is left of some moves. -/
def survivor (moves : List Move) : Option Failure :=
  moves.foldl (fun left s => outlasting left s.failure) none

/-- After a move that fails there are only releases. -/
def Halts (moves : List Move) : Prop :=
  moves.Pairwise fun s t => s.failure ≠ none → t.releases = true

/-- The call that an event is, if it is one. -/
def Event.call? : Event → Option Call
  | .called c => some c
  | _ => none

/-- The calls among some events. -/
def called (events : List Event) : List Call :=
  events.filterMap Event.call?

/-- The calls of some moves. -/
def callsOf (moves : List Move) : List Call :=
  moves.filterMap Move.call

/-- The moves of a run account for its events and its outcome. -/
structure Accounts (moves : List Move) (events : List Event) (o : Except Failure α) : Prop where
  calls : called events = callsOf moves
  left : survivor moves = failure? o
  halts : Halts moves

section Survivor

variable {moves more : List Move} {s : Move}

theorem outlasting_eq_none {e r : Option Failure} :
    outlasting e r = none ↔ e = none ∧ r = none := by
  rcases e with _ | e <;> rcases r with _ | r
  · simp [outlasting]
  · simp [outlasting]
  · simp [outlasting]
  · by_cases hr : r.isOrdinary = true <;> simp [outlasting, hr]

theorem outlasting_ordinary {e : Failure} {r : Option Failure}
    (h : ∀ f, r = some f → f.isOrdinary = true) : outlasting (some e) r = some e := by
  rcases r with _ | r
  · rfl
  · exact if_pos (h r rfl)

@[simp]
theorem survivor_nil : survivor [] = none := rfl

theorem survivor_concat : survivor (moves ++ [s]) = outlasting (survivor moves) s.failure := by
  simp [survivor, List.foldl_append]

theorem survivor_append_of_none (h : survivor moves = none) :
    survivor (moves ++ more) = survivor more := by
  rw [survivor, List.foldl_append]
  exact congrArg (fun e => more.foldl (fun left s => outlasting left s.failure) e) h

theorem survivor_eq_none : survivor moves = none ↔ ∀ s ∈ moves, s.failure = none := by
  induction moves using List.reverseRecOn with
  | nil => simp
  | append_singleton moves s ih =>
    rw [survivor_concat, outlasting_eq_none, ih]
    simp [or_imp, forall_and]

theorem halts_append_of_none (h : survivor moves = none) (hmore : Halts more) :
    Halts (moves ++ more) := by
  have hsound := survivor_eq_none.1 h
  refine List.pairwise_append.2 ⟨?_, hmore, fun s hs t _ hfailed => absurd (hsound s hs) hfailed⟩
  exact List.pairwise_of_forall_mem_list fun s hs t _ hfailed => absurd (hsound s hs) hfailed

theorem Halts.concat (h : Halts moves) (hs : s.releases = true) : Halts (moves ++ [s]) := by
  refine List.pairwise_append.2 ⟨h, List.pairwise_singleton _ s, fun _ _ t ht _ => ?_⟩
  rwa [List.mem_singleton.1 ht]

/-- Once there is a failure, it is left in the end, or an interruption that came after it is. -/
theorem foldl_outlasting (moves : List Move) :
    ∀ e, moves.foldl (fun left s => outlasting left s.failure) (some e) = some e ∨
      ∃ s ∈ moves, ∃ r, s.failure = some r ∧ r.isOrdinary = false ∧
        moves.foldl (fun left s => outlasting left s.failure) (some e) = some r := by
  induction moves with
  | nil => exact fun e => .inl rfl
  | cons s moves ih =>
    intro e
    have hlater : ∀ f, (∃ t ∈ moves, ∃ r, t.failure = some r ∧ r.isOrdinary = false ∧
        moves.foldl (fun left s => outlasting left s.failure) (some f) = some r) →
        ∃ t ∈ s :: moves, ∃ r, t.failure = some r ∧ r.isOrdinary = false ∧
          moves.foldl (fun left s => outlasting left s.failure) (some f) = some r :=
      fun f ⟨t, ht, r, hr⟩ => ⟨t, List.mem_cons_of_mem _ ht, r, hr⟩
    rw [List.foldl_cons]
    rcases hs : s.failure with _ | r
    · exact (ih e).imp_right (hlater e)
    by_cases hr : r.isOrdinary = true
    · rw [outlasting_ordinary fun f hf => Option.some.inj hf ▸ hr]
      exact (ih e).imp_right (hlater e)
    · have hout : outlasting (some e) (some r) = some r := if_neg hr
      rw [hout]
      refine .inr ((ih r).elim (fun h => ?_) (hlater r))
      exact ⟨s, List.mem_cons_self .., r, hs, by simpa using hr, h⟩

/-- The failure that is left is the earliest, or it is the interruption of a release after it. -/
theorem survivor_eq (h : Halts moves) :
    survivor moves = moves.findSome? Move.failure ∨
      ∃ s ∈ moves, s.releases = true ∧ ∃ r, s.failure = some r ∧ r.isOrdinary = false ∧
        survivor moves = some r := by
  induction moves with
  | nil => exact .inl rfl
  | cons s moves ih =>
    obtain ⟨hreleases, hrest⟩ := List.pairwise_cons.1 h
    rw [List.findSome?_cons]
    rcases hs : s.failure with _ | e
    · have hnone : survivor [s] = none := hs
      have hleft : survivor (s :: moves) = survivor moves := survivor_append_of_none hnone
      rw [hleft]
      refine (ih hrest).imp_right ?_
      rintro ⟨t, ht, hinterrupted⟩
      exact ⟨t, List.mem_cons_of_mem _ ht, hinterrupted⟩
    · rw [survivor, List.foldl_cons, hs]
      refine (foldl_outlasting moves e).imp_right ?_
      rintro ⟨t, ht, r, hr, hinterrupted⟩
      exact ⟨t, List.mem_cons_of_mem _ ht, hreleases t ht (by simp [hs]), r, hr, hinterrupted⟩

end Survivor

section Accounts

variable {moves more : List Move} {events rest : List Event} {o : Except Failure α} {c : Call}

theorem called_append : called (events ++ rest) = called events ++ called rest :=
  List.filterMap_append

theorem callsOf_append : callsOf (moves ++ more) = callsOf moves ++ callsOf more :=
  List.filterMap_append

theorem failure?_firstError {released : Except Failure Unit} :
    failure? (firstError o released) =
      outlasting (failure? o) ((failure? released).map .escaped) := by
  rcases o with e | a <;> rcases released with r | _
  · by_cases hr : r.isOrdinary = true
    · simp [firstError, failure?, outlasting, hr]
    · rw [Bool.not_eq_true] at hr
      simp [firstError, failure?, outlasting, hr, Failure.escaped_of_not_ordinary hr]
  · rfl
  · rfl
  · rfl

theorem failure?_map (f : α → β) : failure? (o.map f) = failure? o := by
  cases o with
  | error => rfl
  | ok => rfl

theorem called_cons {event : Event} :
    called (event :: events) = event.call?.toList ++ called events := by
  unfold called
  rw [List.filterMap_cons]
  cases event.call? with
  | none => rfl
  | some => rfl

theorem accounts_quiet : Accounts [.quiet o] [] o :=
  ⟨rfl, rfl, List.pairwise_singleton _ _⟩

theorem accounts_failing {e : Failure} : Accounts [.failing e] [] (.error e : Except Failure α) :=
  ⟨rfl, rfl, List.pairwise_singleton _ _⟩

theorem accounts_calling : Accounts [.calling c o] [.called c] o :=
  ⟨rfl, rfl, List.pairwise_singleton _ _⟩

theorem accounts_refused {e : Failure} (h : o = .error e) :
    Accounts [.calling c o] [.called c] (.error e : Except Failure β) :=
  ⟨rfl, congrArg failure? h, List.pairwise_singleton _ _⟩

theorem accounts_accepted {a : α} {b : β} (h : o = .ok a) :
    Accounts [.calling c o] [.called c] (.ok b : Except Failure β) :=
  ⟨rfl, congrArg failure? h, List.pairwise_singleton _ _⟩

theorem Accounts.append {a : β} (h : Accounts moves events (Except.ok a))
    (hmore : Accounts more rest o) : Accounts (moves ++ more) (events ++ rest) o where
  calls := by rw [called_append, callsOf_append, h.calls, hmore.calls]
  left := (survivor_append_of_none h.left).trans hmore.left
  halts := halts_append_of_none h.left hmore.halts

theorem Accounts.release {released : Except Failure Unit} (h : Accounts moves events o) :
    Accounts (moves ++ [.releasing none released]) events (firstError o released) where
  calls := by
    rw [callsOf_append, h.calls]
    exact (List.append_nil _).symm
  left := by
    rw [survivor_concat, h.left, failure?_firstError]
    rfl
  halts := h.halts.concat rfl

theorem Accounts.release_calling {released : Except Failure Unit} (h : Accounts moves events o) :
    Accounts (moves ++ [.releasing (some c) released]) (events ++ [.called c])
      (firstError o released) where
  calls := by
    rw [called_append, callsOf_append, h.calls]
    rfl
  left := by
    rw [survivor_concat, h.left, failure?_firstError]
    rfl
  halts := h.halts.concat rfl

theorem Accounts.failed {e : Failure} (h : Accounts moves events (.error e : Except Failure α)) :
    survivor moves ≠ none := by
  rw [h.left]
  exact Option.some_ne_none e

theorem Accounts.of_called {events' : List Event} (h : Accounts moves events o)
    (hcalled : called events' = called events) : Accounts moves events' o :=
  ⟨hcalled.trans h.calls, h.left, h.halts⟩

theorem Accounts.of_failure {o' : Except Failure β} (h : Accounts moves events o)
    (ho : failure? o' = failure? o) : Accounts moves events o' :=
  ⟨h.calls, h.left.trans ho.symm, h.halts⟩

end Accounts

section Interrupted

/-- Of the releases among some moves only those of one kind may be interrupted. -/
def InterruptedOnly (kind : Move → Prop) (moves : List Move) : Prop :=
  ∀ s ∈ moves, s.releases = true → kind s ∨ ∀ e, s.failure = some e → e.isOrdinary = true

variable {kind : Move → Prop} {moves more : List Move} {o : Except Failure α} {c : Call}

theorem interruptedOnly_of_none (h : ∀ s ∈ moves, s.releases = false) :
    InterruptedOnly kind moves :=
  fun s hs hreleases => absurd (h s hs) (by simp [hreleases])

theorem InterruptedOnly.append (h : InterruptedOnly kind moves)
    (hmore : InterruptedOnly kind more) : InterruptedOnly kind (moves ++ more) :=
  fun s hs => (List.mem_append.1 hs).elim (h s) (hmore s)

theorem InterruptedOnly.cons_calling (h : InterruptedOnly kind moves) :
    InterruptedOnly kind (.calling c o :: moves) := by
  have hcalling : InterruptedOnly kind [.calling c o] :=
    interruptedOnly_of_none (by simp [Move.calling])
  exact hcalling.append h

theorem InterruptedOnly.release {call : Option Call} {released : Except Failure Unit}
    (h : InterruptedOnly kind moves)
    (hreleased : ∀ e, released = .error e → e.isOrdinary = true) :
    InterruptedOnly kind (moves ++ [.releasing call released]) := by
  refine h.append fun s hs _ => .inr fun e he => ?_
  rw [List.mem_singleton.1 hs] at he
  cases released with
  | ok => cases he
  | error f =>
    obtain rfl : f.escaped = e := Option.some.inj he
    rw [Failure.isOrdinary_escaped]
    exact hreleased f rfl

theorem InterruptedOnly.survivor_eq (h : InterruptedOnly kind moves) (halts : Halts moves) :
    survivor moves = moves.findSome? Move.failure ∨
      ∃ s ∈ moves, kind s ∧ ∃ r, s.failure = some r ∧ r.isOrdinary = false ∧
        survivor moves = some r := by
  refine (GuestImage.survivor_eq halts).imp_right ?_
  rintro ⟨s, hs, hreleases, r, hr, hinterrupted, hleft⟩
  refine ⟨s, hs, (h s hs hreleases).resolve_right fun hordinary => ?_, r, hr, hinterrupted, hleft⟩
  rw [hordinary r hr] at hinterrupted
  cases hinterrupted

end Interrupted

section Calls

variable {moves : List Move} {c : Call}

@[simp]
theorem callsOf_nil : callsOf [] = [] := rfl

@[simp]
theorem callsOf_quiet {o : Except Failure α} : callsOf (.quiet o :: moves) = callsOf moves := rfl

@[simp]
theorem callsOf_failing {e : Failure} : callsOf (.failing e :: moves) = callsOf moves := rfl

@[simp]
theorem callsOf_calling {o : Except Failure α} :
    callsOf (.calling c o :: moves) = c :: callsOf moves := rfl

@[simp]
theorem callsOf_release {o : Except Failure Unit} :
    callsOf (.releasing none o :: moves) = callsOf moves := rfl

@[simp]
theorem callsOf_release_calling {o : Except Failure Unit} :
    callsOf (.releasing (some c) o :: moves) = c :: callsOf moves := rfl

/-- Some call is made exactly once. -/
def CalledOnce (calls : List Call) (argv : List String) : Prop :=
  ∃ before c after, calls = before ++ c :: after ∧ c.argv = argv ∧
    ∀ x ∈ before ++ after, x.argv ≠ argv

theorem CalledOnce.between {calls before after : List Call} {argv : List String}
    (h : CalledOnce calls argv) (hbefore : ∀ c ∈ before, c.argv ≠ argv)
    (hafter : ∀ c ∈ after, c.argv ≠ argv) : CalledOnce (before ++ (calls ++ after)) argv := by
  obtain ⟨before', c, after', rfl, hc, hothers⟩ := h
  refine ⟨before ++ before', c, after' ++ after, by simp, hc, fun x hx => ?_⟩
  simp only [List.mem_append] at hx hothers
  rcases hx with (hx | hx) | hx | hx
  · exact hbefore x hx
  · exact hothers x (.inl hx)
  · exact hothers x (.inr hx)
  · exact hafter x hx

end Calls

end GuestImage
