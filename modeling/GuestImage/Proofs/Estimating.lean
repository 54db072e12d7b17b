import GuestImage.Proofs.Blaming
import GuestImage.Proofs.Tokens

/-!
# What an estimate comes to

A report comes to the number that its last token is a numeral of, or to a failure to parse it where
that token is none (`Answered`). The failure names the image and the device once it is one of the
estimate (`Misreads`). This holds of every report but one that ends in a numeral with more digits
than are converted: its failure is of no stage, so that the estimate passes it on without a name
(`estimate_answered_iff`).
-/

namespace GuestImage

variable {σ : Type}

namespace TrailingNumber

/-- The last token of a text is made of digits. -/
def EndsInNumeral (text : String) (ds : List Char) : Prop :=
  (tokens text.toList).getLast? = some ds ∧ Decimal.IsNumeral ds

/-- A text does not end in a numeral with too many digits. -/
def Convertible (text : String) : Prop :=
  ∀ ds, EndsInNumeral text ds → ds.length ≤ Decimal.maxDigits

/-- The outcome is the number at the end of a text, or a failure of a kind where there is none. -/
inductive Answered (text : String) (Kind : Failure → Prop) : Except Failure Nat → Prop
  | number {ds : List Char} (ends : EndsInNumeral text ds) :
    Answered text Kind (.ok (Decimal.value ds))
  | noNumber {e : Failure} (unended : ∀ ds, ¬EndsInNumeral text ds) (kind : Kind e) :
    Answered text Kind (.error e)

/-- A failure to parse a text. -/
def Misparses (e : Failure) : Prop :=
  Unparsed (.error e)

section Reading

variable {text : String} {ds : List Char} {Kind : Failure → Prop} {o : Except Failure Nat}

theorem endsInNumeral_iff :
    EndsInNumeral text ds ↔ Decimal.IsNumeral ds ∧ lastToken text.toList = ds := by
  rw [EndsInNumeral, getLast?_tokens_eq_some_iff]
  exact ⟨fun h => ⟨h.2, h.1.2⟩, fun h => ⟨⟨h.1.1, h.2⟩, h.1⟩⟩

theorem EndsInNumeral.read (h : EndsInNumeral text ds) :
    read text =
      if ds.length ≤ Decimal.maxDigits then .ok (Decimal.value ds)
      else .error ⟨.badValue (Decimal.tooLongToRead ds.length), []⟩ := by
  obtain ⟨hnumeral, rfl⟩ := endsInNumeral_iff.1 h
  exact read_of_isNumeral hnumeral

theorem answered_read (h : Convertible text) : Answered text Misparses (read text) := by
  by_cases hends : ∃ ds, EndsInNumeral text ds
  · obtain ⟨ds, hds⟩ := hends
    rw [hds.read, if_pos (h ds hds)]
    exact .number hds
  · have hnone : ¬Decimal.IsNumeral (lastToken text.toList) :=
      fun hnumeral => hends ⟨_, endsInNumeral_iff.2 ⟨hnumeral, rfl⟩⟩
    obtain ⟨message, hint, shown, hread⟩ := unparsed_read hnone
    rw [hread]
    exact .noNumber (not_exists.1 hends) ⟨message, hint, shown, rfl⟩

theorem exists_read_badValue (h : ¬Convertible text) :
    ∃ message, read text = .error ⟨.badValue message, []⟩ := by
  unfold Convertible at h
  push Not at h
  obtain ⟨ds, hds, hlong⟩ := h
  exact ⟨_, by rw [hds.read, if_neg (Nat.not_le_of_lt hlong)]⟩

/-- A text is answered exactly if its number can be converted, where a number that cannot be is a
failure of no such kind. -/
theorem answered_iff (answered : Convertible text → Answered text Kind o)
    (refused : ¬Convertible text → ∃ message, o = .error ⟨.badValue message, []⟩)
    (other : ∀ message, ¬Kind ⟨.badValue message, []⟩) :
    Answered text Kind o ↔ Convertible text := by
  refine ⟨fun h => ?_, answered⟩
  by_contra hlong
  obtain ⟨message, rfl⟩ := refused hlong
  cases h with
  | noNumber _ kind => exact other message kind

end Reading

end TrailingNumber

namespace Shrinking

open TrailingNumber

/-- A failure to parse the estimate for an image, which names it and the device that it is attached
to. -/
def Misreads (image : Image) (device : LoopDevice) (e : Failure) : Prop :=
  e.Tells .parse "parse" image.uid ∧
    ∃ f, e.fault = .stage f ∧ f.context.get? "device" = some device.path

section Estimate

variable {image : Image} {device : LoopDevice} {r : ToolResult} {e : Failure}

theorem misreads_annotate (h : Misparses e) :
    Misreads image device (e.annotate [("image", image.uid), ("device", device.path)]) := by
  obtain ⟨message, hint, shown, herror⟩ := h
  obtain rfl := Except.error.inj herror
  exact ⟨⟨_, rfl, rfl, rfl, rfl, rfl⟩, _, rfl, rfl⟩

theorem answered_estimateVerdict (hok : r.ok = true) (h : Convertible (estimateText r)) :
    Answered (estimateText r) (Misreads image device) (estimateVerdict image device r) := by
  have hread := answered_read h
  unfold estimateVerdict
  rw [if_pos hok]
  rcases hnumber : read (estimateText r) with e | blocks
  · rw [hnumber] at hread
    cases hread with
    | noNumber unended kind => exact .noNumber unended (misreads_annotate kind)
  · rw [hnumber] at hread
    cases hread with
    | number ends =>
      dsimp only
      rw [decimal_of_writable (writable_of_read hnumber)]
      exact .number ends

theorem exists_estimateVerdict_badValue (hok : r.ok = true) (h : ¬Convertible (estimateText r)) :
    ∃ message, estimateVerdict image device r = .error ⟨.badValue message, []⟩ := by
  obtain ⟨message, hread⟩ := exists_read_badValue h
  refine ⟨message, ?_⟩
  unfold estimateVerdict
  rw [if_pos hok, hread]
  rfl

theorem estimate_eq (runner : Runner σ) (image : Image) (device : LoopDevice) (w : Run σ) :
    (estimate runner image device w).1 =
      (runner.run ["resize2fs", "-P", device.path] none (w.runner, w.files)).1.outcome.bind
        (estimateVerdict image device) := by
  obtain ⟨record, ask, heq, hasks⟩ := exists_estimate_asks runner image device
  rw [heq, Action.bind_apply, Procedure.record_apply]
  exact hasks.outcome_eq _

end Estimate

/-- A text is read as the number that it ends in, or fails to be parsed, and one that a tool answers
is taken for an estimate in the same way, exactly if it does not end in a numeral with too many
digits. -/
theorem estimate_answered_iff (runner : Runner σ) (image : Image) (device : LoopDevice) (w : Run σ)
    (text : String) :
    (Answered text Misparses (read text) ↔ Convertible text) ∧
      (¬Convertible text → ∃ message, read text = .error ⟨.badValue message, []⟩) ∧
      ∀ r, (runner.run ["resize2fs", "-P", device.path] none (w.runner, w.files)).1.outcome =
          .ok r → r.ok = true → estimateText r = text →
        (Answered text (Misreads image device) (estimate runner image device w).1 ↔
            Convertible text) ∧
          (¬Convertible text →
            ∃ message, (estimate runner image device w).1 = .error ⟨.badValue message, []⟩) := by
  have hparse : ∀ message, ¬Misparses ⟨.badValue message, []⟩ := by
    rintro message ⟨_, _, _, h⟩
    exact nomatch Except.error.inj h
  have hmisread : ∀ message, ¬Misreads image device ⟨.badValue message, []⟩ := by
    rintro message ⟨-, f, h, -⟩
    exact nomatch h
  refine ⟨answered_iff answered_read exists_read_badValue hparse, exists_read_badValue, ?_⟩
  rintro r hanswer hok rfl
  have hverdict : (estimate runner image device w).1 = estimateVerdict image device r := by
    rw [estimate_eq, hanswer]
    rfl
  rw [hverdict]
  exact ⟨answered_iff (answered_estimateVerdict hok) (exists_estimateVerdict_badValue hok) hmisread,
    exists_estimateVerdict_badValue hok⟩

/-- A runner whose tools all succeed and write one text. -/
def writing (text : String) : Runner Unit where
  run argv _ s := (⟨.ok { argv, exitStatus := 0, stdout := text }, none⟩, s)
  ensureAvailable _ _ := .ok ()

/-- A numeral with a digit too many. -/
def overlong : String :=
  String.ofList (List.replicate (Decimal.maxDigits + 1) '1')

theorem endsInNumeral_overlong :
    EndsInNumeral overlong (List.replicate (Decimal.maxDigits + 1) '1') := by
  have hdigits : ∀ c ∈ List.replicate (Decimal.maxDigits + 1) '1', c.isDigit = true :=
    fun c hc => (List.eq_of_mem_replicate hc) ▸ rfl
  rw [endsInNumeral_iff, overlong, String.toList_ofList]
  exact ⟨⟨List.replicate_succ_ne_nil, hdigits⟩, lastToken_of_isDigit hdigits⟩

theorem not_convertible_overlong : ¬Convertible overlong := by
  intro h
  have hlength := h _ endsInNumeral_overlong
  rw [List.length_replicate] at hlength
  exact Nat.not_succ_le_self _ hlength

theorem trim_overlong : Text.trim overlong = overlong := by
  have hone : Text.isBlank '1' = false := by decide
  simp [Text.trim, Text.trimStart, Text.trimEnd, overlong, hone]

/-- A numeral with a digit too many fails to be read, and an estimate that says it fails, as no
failure to parse. -/
theorem estimate_answered_overlong :
    let w : Run Unit := { files := imageHost, runner := () }
    let device : LoopDevice := { path := "/dev/loop0", backingFile := ⟨.top, []⟩ }
    let estimated := (estimate (writing overlong) Provisioning.largeImage device w).1
    ((∃ message, read overlong = .error ⟨.badValue message, []⟩) ∧
        ¬Answered overlong Misparses (read overlong)) ∧
      (∃ message, estimated = .error ⟨.badValue message, []⟩) ∧
        ¬Answered overlong (Misreads Provisioning.largeImage device) estimated := by
  intro w device estimated
  let r : ToolResult := ⟨["resize2fs", "-P", device.path], 0, overlong, ""⟩
  have htext : estimateText r = overlong := by
    have hshown : overlong.isEmpty = false := by simp [overlong, List.replicate_succ]
    rw [estimateText, show r.stdout = overlong from rfl, trim_overlong, hshown]
    rfl
  obtain ⟨hparsed, hvalue, hestimate⟩ :=
    estimate_answered_iff (writing overlong) Provisioning.largeImage device w overlong
  obtain ⟨htold, hestimated⟩ := hestimate r rfl rfl htext
  exact ⟨⟨hvalue not_convertible_overlong, mt hparsed.1 not_convertible_overlong⟩,
    hestimated not_convertible_overlong, mt htold.1 not_convertible_overlong⟩

end Shrinking

end GuestImage
