import GuestImage.Rehearsal.ScriptedHost

/-!
# Giving a child its input

A child may stop reading at any piece of a stream, and a read of the stream may fail. Whichever
comes first, the pipe is closed in the end, the child has been waited for, and it was given the
pieces up to there (`Host.run_feedsChild`). A stream counts as it is read: up to a piece with
nothing in it, if there is one (`ByteStream.asRead`). A child that stopped reading fails no call,
and a read that failed does, unless it failed with a broken pipe: that is taken for the child's, and
the call ends with the child's exit status as if the stream had ended there.
-/

namespace GuestImage

namespace ByteStream

variable {stream : ByteStream} {e : Failure}

theorem forall_mem_asRead (stream : ByteStream) : ∀ chunk ∈ stream.asRead.chunks, chunk ≠ [] := by
  intro chunk hchunk
  unfold asRead at hchunk
  split at hchunk
  · rename_i hall
    simpa using List.all_eq_true.1 hall chunk hchunk
  · simpa using List.all_eq_true.1 List.all_takeWhile chunk hchunk

theorem ending_of_asRead (h : stream.asRead.ending = some e) : stream.ending = some e := by
  unfold asRead at h
  split at h
  · exact h
  · cases h

end ByteStream

namespace Pipe

/-- A child reads all of some pieces: it still reads when it is given each of them. -/
def ReadsAll (p : Pipe) (chunks : List (List UInt8)) : Prop :=
  ∀ given, given <+: chunks → given ≠ [] →
    p.takes (p.received.length + given.flatten.length) = true

/-- A read of a stream fails: the stream ends with a failure, and the child reads up to there. -/
def ReadFails (p : Pipe) (stream : ByteStream) (e : Failure) : Prop :=
  stream.asRead.ending = some e ∧ p.ReadsAll stream.asRead.chunks

/-- A pipe fails to close for another reason than that the child has stopped reading. -/
def CloseFails (p : Pipe) (e : Failure) : Prop :=
  p.closeFailure = some e ∧ isBroken e = false

/-- A pipe that was given more octets. -/
def give (p : Pipe) (octets : List UInt8) : Pipe :=
  { p with received := p.received ++ octets }

/-- What comes of steps for which a broken pipe is as good as success. -/
def tolerate : Except Failure Unit → Except Failure Unit
  | .ok () => .ok ()
  | .error e => if isBroken e then .ok () else .error e

variable {S : Type} {p : Pipe} {chunk : List UInt8} {chunks : List (List UInt8)}

@[simp]
theorem give_nil (p : Pipe) : p.give [] = p := by
  simp [give]

theorem give_give (p : Pipe) (a b : List UInt8) : (p.give a).give b = p.give (a ++ b) := by
  simp [give]

theorem tolerate_eq_error {outcome : Except Failure Unit} {e : Failure} :
    tolerate outcome = .error e ↔ outcome = .error e ∧ isBroken e = false := by
  rcases outcome with e' | u
  · cases hb : isBroken e' with
    | true =>
      simp only [tolerate, hb, if_true, Except.error.injEq, reduceCtorEq, false_iff]
      rintro ⟨rfl, h⟩
      simp [hb] at h
    | false =>
      simp only [tolerate, hb, Bool.false_eq_true, if_false, Except.error.injEq]
      exact ⟨fun h => ⟨h, h ▸ hb⟩, fun h => h.1⟩
  · simp [tolerate]

theorem tolerant_apply (act : Action S Unit) (s : S) :
    tolerant act s = (tolerate (act s).1, (act s).2) := by
  rw [tolerant, Action.bind_apply, Action.attempt_apply]
  rcases (act s).1 with e | u
  · by_cases hb : isBroken e = true <;> simp [tolerate, hb] <;> rfl
  · rfl

theorem write_apply :
    write chunk p =
      if p.takes (p.received.length + chunk.length) then (.ok (), p.give chunk)
      else (.error broken, p) := rfl

/-- A child reads a piece and the ones after it if it reads the piece, and then the others. -/
theorem readsAll_cons :
    p.ReadsAll (chunk :: chunks) ↔
      p.takes (p.received.length + chunk.length) = true ∧ (p.give chunk).ReadsAll chunks := by
  constructor
  · intro h
    refine ⟨by simpa using h [chunk] (by simp) (by simp), fun given hgiven _ => ?_⟩
    simpa [give, takes, Nat.add_assoc] using
      h (chunk :: given) ((List.prefix_cons_inj chunk).2 hgiven) (by simp)
  · rintro ⟨hchunk, hrest⟩ given hgiven hne
    obtain ⟨first, given', rfl⟩ := List.exists_cons_of_ne_nil hne
    obtain ⟨rfl, hgiven'⟩ := List.cons_prefix_cons.1 hgiven
    by_cases hne' : given' = []
    · subst hne'
      simpa using hchunk
    · simpa [give, takes, Nat.add_assoc] using hrest given' hgiven' hne'

theorem copy_cons (ending : Option Failure) (full : chunk ≠ []) :
    copy ending (chunk :: chunks) p =
      if p.takes (p.received.length + chunk.length) then copy ending chunks (p.give chunk)
      else (.error broken, p) := by
  have hfull : chunk.isEmpty = false := by simpa using full
  rw [copy, hfull, if_neg Bool.false_ne_true, Action.bind_apply, write_apply]
  by_cases htakes : p.takes (p.received.length + chunk.length) = true
  · rw [if_pos htakes, if_pos htakes]
  · rw [if_neg htakes, if_neg htakes]

/-- What is copied of a stream is the stream as it is read. -/
theorem copy_asRead (ending : Option Failure) :
    ∀ (chunks : List (List UInt8)) (p : Pipe),
      copy ending chunks p =
        copy (ByteStream.asRead ⟨chunks, ending⟩).ending
          (ByteStream.asRead ⟨chunks, ending⟩).chunks p
  | [], _ => rfl
  | [] :: _, _ => rfl
  | (octet :: octets) :: chunks, p => by
    have ih := copy_asRead ending chunks
    have hcons : ByteStream.asRead ⟨(octet :: octets) :: chunks, ending⟩ =
        ⟨(octet :: octets) :: (ByteStream.asRead ⟨chunks, ending⟩).chunks,
          (ByteStream.asRead ⟨chunks, ending⟩).ending⟩ := by
      unfold ByteStream.asRead
      by_cases hall : (chunks.all fun chunk => !chunk.isEmpty) = true <;> simp [hall]
    rw [hcons, copy_cons _ (by simp), copy_cons _ (by simp)]
    split
    · exact ih _
    · rfl

/-- Copying to a child that reads everything ends as the stream does. -/
theorem copy_of_readsAll (ending : Option Failure) :
    ∀ {chunks : List (List UInt8)} {p : Pipe}, (∀ chunk ∈ chunks, chunk ≠ []) →
      p.ReadsAll chunks → copy ending chunks p =
        ((match ending with | none => .ok () | some e => .error e), p.give chunks.flatten)
  | [], p, _, _ => by
    rw [List.flatten_nil, give_nil]
    cases ending <;> rfl
  | chunk :: chunks, p, full, h => by
    obtain ⟨hchunk, hrest⟩ := readsAll_cons.1 h
    obtain ⟨hfirst, hfull⟩ := List.forall_mem_cons.1 full
    rw [copy_cons ending hfirst, if_pos hchunk, copy_of_readsAll ending hfull hrest, give_give,
      List.flatten_cons]

/-- Copying to a child that stops reading ends there with a broken pipe. -/
theorem copy_of_not_readsAll (ending : Option Failure) :
    ∀ {chunks : List (List UInt8)} {p : Pipe}, (∀ chunk ∈ chunks, chunk ≠ []) →
      ¬ p.ReadsAll chunks →
        ∃ given, given <+: chunks ∧ copy ending chunks p = (.error broken, p.give given.flatten)
  | [], p, _, h => (h fun _ hgiven hne => absurd (List.prefix_nil.1 hgiven) hne).elim
  | chunk :: chunks, p, full, h => by
    obtain ⟨hfirst, hfull⟩ := List.forall_mem_cons.1 full
    by_cases hchunk : p.takes (p.received.length + chunk.length) = true
    · have hrest : ¬ (p.give chunk).ReadsAll chunks :=
        fun hrest => h (readsAll_cons.2 ⟨hchunk, hrest⟩)
      obtain ⟨given, hgiven, hcopy⟩ := copy_of_not_readsAll ending hfull hrest
      refine ⟨chunk :: given, (List.prefix_cons_inj chunk).2 hgiven, ?_⟩
      rw [copy_cons ending hfirst, if_pos hchunk, hcopy, give_give, List.flatten_cons]
    · refine ⟨[], List.nil_prefix, ?_⟩
      rw [copy_cons ending hfirst, if_neg hchunk, List.flatten_nil, give_nil]

/-- A child that stops reading leaves no failure of the copying behind, and one that reads
everything leaves that of the read. -/
theorem exists_tolerant_copy (p : Pipe) (stream : ByteStream) :
    ∃ given copied, given <+: stream.asRead.chunks ∧
      (p.ReadsAll stream.asRead.chunks → given = stream.asRead.chunks) ∧
      tolerant (copy stream.ending stream.chunks) p = (copied, p.give given.flatten) ∧
      ∀ e, copied = .error e ↔ p.ReadFails stream e ∧ isBroken e = false := by
  have full := stream.forall_mem_asRead
  rw [tolerant_apply, copy_asRead]
  by_cases h : p.ReadsAll stream.asRead.chunks
  · refine ⟨stream.asRead.chunks, _, List.prefix_rfl, fun _ => rfl,
      by rw [copy_of_readsAll _ full h], fun e => ?_⟩
    rw [tolerate_eq_error, ReadFails, and_iff_left h]
    cases stream.asRead.ending <;> simp
  · obtain ⟨given, hgiven, hcopy⟩ := copy_of_not_readsAll stream.asRead.ending full h
    refine ⟨given, _, hgiven, fun hall => (h hall).elim, by rw [hcopy], fun e => ?_⟩
    have hbroken : tolerate (.error broken) = .ok () := rfl
    simp [hbroken, ReadFails, h]

/-- Closing fails as the pipe does, but for a child that has stopped reading. It is closed at the
second attempt at the latest. -/
theorem exists_tolerant_close (p : Pipe) :
    ∃ closing p', tolerant close p = (closing, p') ∧
      (close p').2 = { p with closeFailure := none, closed := true } ∧
      ∀ e, closing = .error e ↔ p.CloseFails e := by
  obtain ⟨limit, closeFailure, received, closed⟩ := p
  cases closeFailure with
  | none =>
    refine ⟨_, _, tolerant_apply _ _, rfl, fun e => ?_⟩
    rw [tolerate_eq_error]
    simp [close, CloseFails]
  | some c =>
    refine ⟨_, _, tolerant_apply _ _, rfl, fun e => ?_⟩
    rw [tolerate_eq_error]
    simp [close, CloseFails]

end Pipe

namespace Host

variable {σ : Type} {host : Host σ} {caller : Caller} {argv command : List String}
  {stream : ByteStream} {s : Session σ} {fs fs' : FileSystem} {state : σ} {child : Child σ}
  {p : Pipe}

/-- The failure to close a pipe takes the place of that of a read, and both are raised unless they
are a broken pipe. -/
theorem exists_feedChild (caller : Caller) (argv : List String) (stream : ByteStream) (p : Pipe) :
    ∃ given fed, given <+: stream.asRead.chunks ∧
      (p.ReadsAll stream.asRead.chunks → given = stream.asRead.chunks) ∧
      feedChild caller argv stream (some p) =
        (fed, some { p.give given.flatten with closeFailure := none, closed := true }) ∧
      ∀ e, fed = .error e ↔
        p.CloseFails e ∨ (∀ c, ¬ p.CloseFails c) ∧ p.ReadFails stream e ∧
          Pipe.isBroken e = false := by
  obtain ⟨given, copied, hgiven, hall, hcopy, hcopied⟩ := Pipe.exists_tolerant_copy p stream
  obtain ⟨closing, p', hclose, hp', hclosing⟩ :=
    Pipe.exists_tolerant_close (p.give given.flatten)
  have hfed : Pipe.feed stream.chunks stream.ending p = (closing.bind fun _ => copied, p') := by
    rw [Pipe.feed, Action.bind_apply, Action.attempt_apply, hcopy]
    simp only [Action.bind_apply, hclose, Action.ofExcept_apply]
    cases closing <;> rfl
  refine ⟨given, closing.bind fun _ => copied, hgiven, hall, by simp only [feedChild, hfed, hp'],
    fun e => ?_⟩
  have hsame : ∀ c, (p.give given.flatten).CloseFails c ↔ p.CloseFails c := fun _ => Iff.rfl
  simp only [hsame] at hclosing
  rcases closing with c | u
  · have hc : p.CloseFails c := (hclosing c).1 rfl
    constructor
    · intro h
      obtain rfl : c = e := by simpa [Except.bind] using h
      exact Or.inl hc
    · rintro (h | ⟨h, -⟩)
      · exact (hclosing e).2 h
      · exact (h c hc).elim
  · have hnone : ∀ c, ¬ p.CloseFails c := fun c h => by simpa using (hclosing c).2 h
    simp only [Except.bind, hcopied, hnone, false_or, not_false_iff, implies_true, true_and]

/-- A call that gives a child a stream leaves the pipe closed and the child waited for, which was
given the stream up to where the child stopped reading or a read failed. It raises the failure of
the read, and no other as long as the pipe does not fail to close, but a broken pipe: a child that
stopped reading is answered for by its exit status, and so is a stream whose read failed like
that. -/
theorem run_feedsChild (hline : host.facts.commandLine caller argv = .ok command)
    (hspawn : host.spawn command (s.host, fs) = (.ok child, state, fs'))
    (hpipe : child.pipe = some p) :
    ∃ given p', given <+: stream.asRead.chunks ∧
      (p.ReadsAll stream.asRead.chunks → given = stream.asRead.chunks) ∧
      p'.received = p.received ++ given.flatten ∧ p'.closed = true ∧
      let (finished, state', fs'') := child.finish p'.received (state, fs')
      let (answer, after) := host.run caller argv (some stream) (s, fs)
      after =
        ({ s with
            host := state'
            commands := s.commands ++ [command]
            children := s.children ++ [⟨some p', true⟩] }, fs'') ∧
      (∀ e, answer.outcome = .error e ↔
        p.CloseFails e ∨ (∀ c, ¬ p.CloseFails c) ∧ p.ReadFails stream e ∧
          Pipe.isBroken e = false) ∧
      ∀ r, answer.outcome = .ok r ↔
        r = ⟨argv, finished.exitStatus, "", Utf8.decodeLossy finished.stderr⟩ ∧
          (∀ c, ¬ p.CloseFails c) ∧
          ∀ e, p.ReadFails stream e → Pipe.isBroken e = true := by
  obtain ⟨given, fed, hgiven, hall, hfeed, hfed⟩ := exists_feedChild caller argv stream p
  refine ⟨given, { p.give given.flatten with closeFailure := none, closed := true }, hgiven, hall,
    rfl, rfl, ?_⟩
  simp only [run, hline, runStreaming, hspawn, hpipe, hfeed, Option.map_some, Option.getD_some]
  refine ⟨trivial, fun e => ?_, fun r => ?_⟩
  · rw [← hfed]
    cases fed <;> simp [Except.map]
  · rcases fed with e | u
    · refine iff_of_false (by simp [Except.map]) fun ⟨_, hclose, hread⟩ => ?_
      rcases (hfed e).1 rfl with h | ⟨-, h, hb⟩
      · exact hclose e h
      · simp [hread e h] at hb
    · have hclose : ∀ c, ¬ p.CloseFails c := fun c h => by simpa using (hfed c).2 (Or.inl h)
      have hread : ∀ e, p.ReadFails stream e → Pipe.isBroken e = true := fun e h =>
        (Bool.not_eq_false _).mp fun hb => by simpa using (hfed e).2 (Or.inr ⟨hclose, h, hb⟩)
      rw [and_iff_left hread, and_iff_left hclose, eq_comm]
      simp only [Except.map, Except.ok.injEq]

/-- The source of an archive that breaks off with an input error, and one behind a connection that
is shut down: the first is reported, and of the second the two octets read are unpacked and the
tool's success is the answer. -/
theorem run_feedsChild_sources :
    let facts : HostFacts :=
      { platform := "linux", uid := 0, onPath := fun _ => none, inDirectory := fun _ _ => none }
    let host := ({} : Rehearsal.HostScript).host facts
    let unreadable : Failure := ⟨.refusal (.ofNumber 5 "Input/output error" []), []⟩
    let shutDown : Failure := ⟨.refusal (.ofNumber 32 "Broken pipe" []), []⟩
    let answer (e : Failure) : CallOutcome × Session Unit × FileSystem :=
      host.run {} ["tar", "-x"] (some ⟨[[1, 2]], some e⟩) (⟨(), [], []⟩, ⟨[], []⟩)
    (answer unreadable).1.outcome = .error unreadable ∧
      (answer shutDown).1.outcome = .ok ⟨["tar", "-x"], 0, "", ""⟩ := by
  intro facts host unreadable shutDown answer
  have hreads : ({} : Pipe).ReadsAll [[1, 2]] := fun _ _ _ => rfl
  have hopen : ∀ c, ¬ ({} : Pipe).CloseFails c := fun c h => by simpa using h.1
  constructor
  · obtain ⟨-, -, -, -, -, -, -, herror, -⟩ :=
      @run_feedsChild _ host {} ["tar", "-x"] _ ⟨[[1, 2]], some unreadable⟩ ⟨(), [], []⟩ ⟨[], []⟩
        _ _ _ _ rfl rfl rfl
    exact (herror unreadable).2 (Or.inr ⟨hopen, ⟨rfl, hreads⟩, rfl⟩)
  · obtain ⟨-, -, -, -, -, -, -, -, hok⟩ :=
      @run_feedsChild _ host {} ["tar", "-x"] _ ⟨[[1, 2]], some shutDown⟩ ⟨(), [], []⟩ ⟨[], []⟩
        _ _ _ _ rfl rfl rfl
    refine (hok _).2 ⟨rfl, hopen, ?_⟩
    rintro e ⟨he, -⟩
    obtain rfl : shutDown = e := Option.some.inj he
    rfl

end Host

end GuestImage
