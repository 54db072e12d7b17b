import GuestImage.Proofs.Feeding
import GuestImage.Proofs.Utf8

/-!
# The text of what a command writes

A command that is given a stream is answered for whatever it writes: its diagnostics are read with
U+FFFD in the place of what is no UTF-8. Of one without a stream the octets have to be UTF-8, or the
call fails and its exit status is lost; and carriage returns become line feeds. So the two ways of
running the same command tell the same of it exactly if all it writes is UTF-8 and there is no
carriage return in its diagnostics (`Host.run_transcribes_iff`).
-/

namespace GuestImage

theorem Text.unifyLineFeeds_eq_self_iff {s : List Char} :
    unifyLineFeeds s = s ↔ '\r' ∉ s := by
  refine ⟨fun h => h ▸ not_mem_unifyLineFeeds s, fun h => ?_⟩
  induction s with
  | nil => rfl
  | cons c rest ih =>
    obtain ⟨hc, hrest⟩ := not_or.1 (mt List.mem_cons.2 h)
    rw [unifyLineFeeds, ih hrest, if_neg (Ne.symm hc)]
    rintro rest' rfl
    exact absurd rfl hc

/-- Octets are those of a text. -/
def Utf8.IsText (octets : List UInt8) : Prop :=
  ∃ s, octets = encode s

/-- How a command ends, and the octets that it writes to its output and its diagnostics. -/
structure Performance where
  exitStatus : Int
  stdout : List UInt8
  stderr : List UInt8

namespace Captured

open Utf8

/-- A text with its line ends as line feeds. -/
def unified (s : String) : String :=
  String.ofList (Text.unifyLineFeeds s.toList)

theorem unified_eq_self_iff {s : String} : unified s = s ↔ '\r' ∉ s.toList := by
  rw [← Text.unifyLineFeeds_eq_self_iff, unified, ← String.toList_inj, String.toList_ofList]

theorem text_encode (s : String) : ofOctets.text (encode s) = .ok (unified s) := by
  rw [ofOctets.text, decode_encode]
  rfl

theorem exists_text_error {octets : List UInt8} (h : ¬IsText octets) :
    ∃ message, ofOctets.text octets = .error ⟨.undecodable message, []⟩ := by
  unfold ofOctets.text
  rcases hdecode : decode octets with message | s
  · exact ⟨message, rfl⟩
  · exact absurd ⟨s, decode_eq_ok_iff.1 hdecode⟩ h

theorem ofOctets_encode (exitStatus : Int) (out err : String) :
    ofOctets exitStatus (encode out) (encode err) =
      .ok ⟨exitStatus, some (unified out), some (unified err)⟩ := by
  rw [ofOctets, text_encode, text_encode]
  rfl

theorem exists_ofOctets_error (exitStatus : Int) {stdout stderr : List UInt8}
    (h : ¬(IsText stdout ∧ IsText stderr)) :
    ∃ message, ofOctets exitStatus stdout stderr = .error ⟨.undecodable message, []⟩ := by
  by_cases hout : IsText stdout
  · obtain ⟨message, herr⟩ := exists_text_error fun herr => h ⟨hout, herr⟩
    obtain ⟨out, rfl⟩ := hout
    exact ⟨message, by rw [ofOctets, text_encode, herr]; rfl⟩
  · obtain ⟨message, hout⟩ := exists_text_error hout
    exact ⟨message, by rw [ofOctets, hout]; rfl⟩

end Captured

namespace Host

open Utf8

variable {σ : Type} {host : Host σ} {caller : Caller} {argv command : List String}
  {stream : ByteStream} {s : Session σ} {fs : FileSystem} {p : Performance}

/-- A command that is run ends and writes in one way, be it captured or given a stream. The pipe to
it can be closed, unless it has stopped reading. -/
structure Performs (host : Host σ) (command : List String) (start : σ × FileSystem)
    (p : Performance) : Prop where
  captured : ∃ after,
    host.capture command start = (Captured.ofOctets p.exitStatus p.stdout p.stderr, after)
  given : ∃ child pipe after, host.spawn command start = (.ok child, after) ∧
    child.pipe = some pipe ∧ (∀ e, ¬pipe.CloseFails e) ∧
    ∀ received later, (child.finish received later).1 = ⟨p.exitStatus, p.stderr⟩

theorem Performs.run_captured (h : host.Performs command (s.host, fs) p)
    (hline : host.facts.commandLine caller argv = .ok command) :
    (host.run caller argv none (s, fs)).1.outcome =
      (Captured.ofOctets p.exitStatus p.stdout p.stderr).map fun c =>
        ⟨argv, c.exitStatus, c.stdout.getD "", c.stderr.getD ""⟩ := by
  obtain ⟨_, hcapture⟩ := h.captured
  simp only [run, hline, runCaptured, hcapture]

/-- The child is answered for, since nothing but the stream or the pipe fails such a call. -/
theorem Performs.run_given (h : host.Performs command (s.host, fs) p)
    (hline : host.facts.commandLine caller argv = .ok command) (hread : stream.ending = none) :
    (host.run caller argv (some stream) (s, fs)).1.outcome =
      .ok ⟨argv, p.exitStatus, "", decodeLossy p.stderr⟩ := by
  obtain ⟨child, pipe, _, hspawn, hpipe, hclose, hfinish⟩ := h.given
  obtain ⟨given, fed, -, -, hfeed, hfed⟩ := exists_feedChild caller argv stream pipe
  have hok : fed = .ok () := by
    rcases fed with e | _
    · rcases (hfed e).1 rfl with hfails | ⟨-, ⟨hending, -⟩, -⟩
      · exact absurd hfails (hclose e)
      · exact nomatch hread.symm.trans (ByteStream.ending_of_asRead hending)
    · rfl
  simp only [run, hline, runStreaming, hspawn, hpipe, hfeed, hok, hfinish]
  rfl

/-- A call that gives a command a stream always tells how the command ended, and a call without one
exactly if all that the command wrote is UTF-8. Both tell the same of its diagnostics exactly if
these have no carriage return besides. -/
theorem run_transcribes_iff (hline : host.facts.commandLine caller argv = .ok command)
    (h : host.Performs command (s.host, fs) p) (hread : stream.ending = none) :
    let captured := (host.run caller argv none (s, fs)).1.outcome
    let given := (host.run caller argv (some stream) (s, fs)).1.outcome
    given = .ok ⟨argv, p.exitStatus, "", decodeLossy p.stderr⟩ ∧
      (∀ out err, p.stdout = encode out → p.stderr = encode err →
        captured = .ok ⟨argv, p.exitStatus, Captured.unified out, Captured.unified err⟩) ∧
      (¬(IsText p.stdout ∧ IsText p.stderr) →
        ∃ message, captured = .error ⟨.undecodable message, []⟩) ∧
      ((∃ r r', captured = .ok r ∧ given = .ok r' ∧ r.exitStatus = p.exitStatus ∧
          r'.exitStatus = p.exitStatus ∧ r.stderr = r'.stderr) ↔
        IsText p.stdout ∧ ∃ err, p.stderr = encode err ∧ '\r' ∉ err.toList) := by
  intro captured given
  have hgiven : given = .ok ⟨argv, p.exitStatus, "", decodeLossy p.stderr⟩ :=
    h.run_given hline hread
  have hcaptured := h.run_captured hline
  have htexts : ∀ out err, p.stdout = encode out → p.stderr = encode err →
      captured = .ok ⟨argv, p.exitStatus, Captured.unified out, Captured.unified err⟩ := by
    intro out err hout herr
    rw [hout, herr, Captured.ofOctets_encode] at hcaptured
    exact hcaptured
  have hfails : ¬(IsText p.stdout ∧ IsText p.stderr) →
      ∃ message, captured = .error ⟨.undecodable message, []⟩ := by
    intro hno
    obtain ⟨message, herror⟩ := Captured.exists_ofOctets_error p.exitStatus hno
    rw [herror] at hcaptured
    exact ⟨message, hcaptured⟩
  refine ⟨hgiven, htexts, hfails, ?_, ?_⟩
  · rintro ⟨r, r', hr, hr', -, -, hsame⟩
    by_cases htext : IsText p.stdout ∧ IsText p.stderr
    · obtain ⟨⟨out, hout⟩, err, herr⟩ := htext
      obtain rfl := Except.ok.inj ((htexts out err hout herr).symm.trans hr)
      obtain rfl := Except.ok.inj (hgiven.symm.trans hr')
      rw [herr, decodeLossy_encode] at hsame
      exact ⟨⟨out, hout⟩, err, herr, Captured.unified_eq_self_iff.1 hsame⟩
    · obtain ⟨message, herror⟩ := hfails htext
      exact nomatch herror.symm.trans hr
  · rintro ⟨⟨out, hout⟩, err, herr, hreturn⟩
    refine ⟨_, _, htexts out err hout herr, hgiven, rfl, rfl, ?_⟩
    rw [herr, decodeLossy_encode]
    exact Captured.unified_eq_self_iff.2 hreturn

/-- A host on which every command ends and writes in one way. -/
def performing (facts : HostFacts) (p : Performance) : Host Unit where
  facts := facts
  capture _ start := (Captured.ofOctets p.exitStatus p.stdout p.stderr, start)
  spawn _ start := (.ok ⟨some {}, fun _ later => (⟨p.exitStatus, p.stderr⟩, later)⟩, start)

theorem performs_performing (facts : HostFacts) (command : List String)
    (start : Unit × FileSystem) (p : Performance) :
    (performing facts p).Performs command start p where
  captured := ⟨_, rfl⟩
  given := ⟨_, _, _, rfl, rfl, fun _ h => by simpa using h.1, fun _ _ => rfl⟩

/-- Two commands that end with status 3. The diagnostics of the one are an octet that is no UTF-8:
without a stream its status is not told. Those of the other have a carriage return, of which a call
without a stream makes a line feed. -/
theorem run_transcribes_twoCommands :
    let facts : HostFacts :=
      { platform := "linux", uid := 0, onPath := fun _ => none, inDirectory := fun _ _ => none }
    let start : Session Unit × FileSystem := (⟨(), [], []⟩, ⟨[], []⟩)
    let answer (stderr : List UInt8) (stdin : Option ByteStream) : Except Failure ToolResult :=
      ((performing facts ⟨3, [], stderr⟩).run {} ["e2fsck"] stdin start).1.outcome
    (∃ message, answer [0xFF] none = .error ⟨.undecodable message, []⟩) ∧
      answer [0xFF] (some ⟨[], none⟩) = .ok ⟨["e2fsck"], 3, "", "\uFFFD"⟩ ∧
      answer [0x61, 0x0D] none = .ok ⟨["e2fsck"], 3, "", "a\n"⟩ ∧
      answer [0x61, 0x0D] (some ⟨[], none⟩) = .ok ⟨["e2fsck"], 3, "", "a\r"⟩ := by
  intro facts start answer
  have htranscribes := fun stderr =>
    @run_transcribes_iff _ (performing facts ⟨3, [], stderr⟩) {} ["e2fsck"] _ ⟨[], none⟩ start.1
      start.2 ⟨3, [], stderr⟩ rfl (performs_performing ..) rfl
  obtain ⟨hgiven, -, hfails, -⟩ := htranscribes [0xFF]
  obtain ⟨hgiven', htexts, -, -⟩ := htranscribes [0x61, 0x0D]
  refine ⟨hfails fun h => ?_, hgiven, htexts "" "a\r" rfl rfl, hgiven'⟩
  obtain ⟨s, hs⟩ := h.2
  exact nomatch (decode_eq_ok_iff.2 hs)

end Host

end GuestImage
