import GuestImage.Proofs.Calls
import GuestImage.Proofs.Hindering
import GuestImage.Proofs.Records

/-!
# Announced failures

Steps announce their failures to the log (`Announces`): where a stage fails in them they append a
record of a kind, and where nothing fails they append none. A step that fails with a refusal of the
operating system is not the failure of a stage (`InStage`), and no operation on files is
(`Plain`).
-/

namespace GuestImage

variable {σ α β : Type}

/-- Whether a record reports the failure of a stage of an image. -/
def LogRecord.Reports (image : Image) (stage : String) (r : LogRecord) : Prop :=
  r.level = "error" ∧ r.image = some image.uid ∧ r.stage = some stage

/-- The outcome is the failure of a stage. -/
def InStage (o : Except Failure α) : Prop :=
  ∃ f causes, o = .error ⟨.stage f, causes⟩

/-- Records were appended, one of which is of a kind. -/
def Told (P : LogRecord → Prop) (before after : Log) : Prop :=
  ∃ more, after = before ++ more ∧ ∃ r ∈ more, P r

/-- Records were appended, none of which is of a kind. -/
def Untold (P : LogRecord → Prop) (before after : Log) : Prop :=
  ∃ more, after = before ++ more ∧ ∀ r ∈ more, ¬P r

/-- Steps that only append to the log: a record of a kind where a stage fails in them, and none
where nothing does. -/
structure Announces (P : LogRecord → Prop) (act : Procedure σ α) : Prop where
  grows : ∀ w, w.log <+: (act w).2.log
  told : ∀ w, InStage (act w).1 → Told P w.log (act w).2.log
  untold : ∀ w a, (act w).1 = .ok a → Untold P w.log (act w).2.log

/-- A runner whose calls are always answered. -/
def Runner.Answers (runner : Runner σ) : Prop :=
  ∀ argv stdin s, ∃ r, (runner.run argv stdin s).1.outcome = .ok r

section Log

variable {P : LogRecord → Prop} {before mid after : Log}

theorem not_told_of_untold (h : Untold P before after) : ¬Told P before after := by
  rintro ⟨more, hmore, r, hr, hp⟩
  obtain ⟨more', hmore', hnone⟩ := h
  rw [hmore, List.append_right_inj] at hmore'
  exact hnone r (hmore' ▸ hr) hp

theorem untold_refl (log : Log) : Untold P log log :=
  ⟨[], (List.append_nil log).symm, by simp⟩

theorem untold_singleton {r : LogRecord} (h : ¬P r) (log : Log) : Untold P log (log ++ [r]) :=
  ⟨[r], rfl, by simpa using h⟩

theorem Untold.trans (h : Untold P before mid) (h' : Untold P mid after) :
    Untold P before after := by
  obtain ⟨more, rfl, hnone⟩ := h
  obtain ⟨more', rfl, hnone'⟩ := h'
  refine ⟨more ++ more', List.append_assoc .., fun r hr => ?_⟩
  exact (List.mem_append.1 hr).elim (hnone r) (hnone' r)

theorem Untold.isPrefix (h : Untold P before after) : before <+: after := by
  obtain ⟨more, rfl, -⟩ := h
  exact List.prefix_append before more

theorem Told.isPrefix (h : Told P before after) : before <+: after := by
  obtain ⟨more, rfl, -⟩ := h
  exact List.prefix_append before more

theorem Told.trans_isPrefix (h : Told P before mid) (h' : mid <+: after) :
    Told P before after := by
  obtain ⟨more, rfl, r, hr, hp⟩ := h
  obtain ⟨more', rfl⟩ := h'
  exact ⟨more ++ more', List.append_assoc .., r, List.mem_append_left more' hr, hp⟩

theorem told_of_isPrefix (h : before <+: mid) (h' : Told P mid after) : Told P before after := by
  obtain ⟨more, rfl⟩ := h
  obtain ⟨more', rfl, r, hr, hp⟩ := h'
  exact ⟨more ++ more', List.append_assoc .., r, List.mem_append_right more hr, hp⟩

theorem not_reports {image : Image} {stage : String} {r : LogRecord}
    (h : (r.level == "error") = false) : ¬r.Reports image stage :=
  fun hr => ne_of_beq_false h hr.1

end Log

theorem settle_untold {P : LogRecord → Prop} {release : Procedure σ Unit}
    {listen : Failure → Procedure σ Unit} (hrelease : Writes (fun r => ¬P r) release)
    (hlisten : ∀ e, Writes (fun r => ¬P r) (listen e)) (body : Procedure σ α) (w : Run σ) :
    Untold P (body w).2.log (settle release (some listen) body w).2.log := by
  have hreleased : Untold P (body w).2.log (release (body w).2).2.log := hrelease (body w).2
  rcases settle_state release listen body w with h | ⟨e, h⟩
  · exact h ▸ hreleased
  · exact h ▸ hreleased.trans (hlisten e (release (body w).2).2)

section InStage

theorem not_inStage_ok (a : α) : ¬InStage (.ok a : Except Failure α) := by
  rintro ⟨f, causes, h⟩
  exact nomatch h

theorem not_inStage_error {e : Failure} (h : ∀ f, e.fault ≠ .stage f) :
    ¬InStage (.error e : Except Failure α) := by
  rintro ⟨f, causes, he⟩
  exact h f (congrArg Failure.fault (Except.error.inj he))

theorem inStage_error_iff {e : Failure} :
    InStage (.error e : Except Failure α) ↔ InStage (.error e : Except Failure β) :=
  ⟨fun ⟨f, causes, h⟩ => ⟨f, causes, congrArg _ (Except.error.inj h)⟩,
    fun ⟨f, causes, h⟩ => ⟨f, causes, congrArg _ (Except.error.inj h)⟩⟩

theorem inStage_firstError {held : Except Failure α} {released : Except Failure Unit}
    (h : InStage (firstError held released)) :
    InStage held ∨ (∃ a, held = .ok a) ∧ ∃ e, released = .error e := by
  rcases held with e | a <;> rcases released with r | _
  · rw [firstError] at h
    split_ifs at h with hordinary
    · exact .inl h
    -- only an interruption takes the place of the first error, and that is no failure of a stage
    · obtain ⟨f, causes, hr⟩ := h
      obtain rfl := Except.error.inj hr
      exact absurd rfl hordinary
  · exact .inl h
  · exact .inr ⟨⟨a, rfl⟩, r, rfl⟩
  · exact absurd h (not_inStage_ok a)

theorem not_inStage_decimal (z : Int) : ¬InStage (decimal z) := by
  unfold decimal
  split
  · exact not_inStage_ok _
  · exact not_inStage_error fun _ h => nomatch h

end InStage

section Announces

variable {P : LogRecord → Prop} {act : Procedure σ α}

theorem Announces.of_writes (h : Writes (fun r => ¬P r) act) (hnot : ∀ w, ¬InStage (act w).1) :
    Announces P act where
  grows w := Untold.isPrefix (h w)
  told w hfails := absurd hfails (hnot w)
  untold w _ _ := h w

theorem announces_ofExcept {o : Except Failure α} (h : ¬InStage o) :
    Announces P (Action.ofExcept o : Procedure σ α) :=
  .of_writes (writes_ofExcept o) fun _ => h

theorem announces_pure (a : α) : Announces P (pure a : Procedure σ α) :=
  announces_ofExcept (not_inStage_ok a)

theorem announces_throw {e : Failure} (h : ∀ f, e.fault ≠ .stage f) :
    Announces P (throw e : Procedure σ α) :=
  announces_ofExcept (not_inStage_error h)

theorem announces_decimal (z : Int) :
    Announces P (Action.ofExcept (decimal z) : Procedure σ String) :=
  announces_ofExcept (not_inStage_decimal z)

theorem announces_record {r : LogRecord} (h : ¬P r) :
    Announces P (Procedure.record r : Procedure σ Unit) :=
  .of_writes (writes_record h) fun _ => not_inStage_ok ()

theorem announces_call {runner : Runner σ} (answers : runner.Answers) (argv : List String)
    (stdin : Option ByteStream) : Announces P (Procedure.call runner argv stdin) := by
  refine .of_writes (writes_call runner argv stdin) fun w => ?_
  obtain ⟨r, hr⟩ := answers argv stdin (w.runner, w.files)
  have hcall : (Procedure.call runner argv stdin w).1 = .ok r := hr
  rw [hcall]
  exact not_inStage_ok r

theorem Announces.bind {f : α → Procedure σ β} (h : Announces P act)
    (hf : ∀ a, Announces P (f a)) : Announces P (act >>= f) := by
  have hcases : ∀ w, (∃ e w', act w = (.error e, w') ∧ (act >>= f) w = (.error e, w')) ∨
      ∃ a w', act w = (.ok a, w') ∧ (act >>= f) w = f a w' := by
    intro w
    rw [Action.bind_apply]
    rcases act w with ⟨e | a, w'⟩
    · exact .inl ⟨e, w', rfl, rfl⟩
    · exact .inr ⟨a, w', rfl, rfl⟩
  refine ⟨fun w => ?_, fun w hfails => ?_, fun w b hok => ?_⟩
  · have hgrows := h.grows w
    rcases hcases w with ⟨e, w', hw, hbind⟩ | ⟨a, w', hw, hbind⟩
    · rw [hw] at hgrows
      exact hbind ▸ hgrows
    · rw [hw] at hgrows
      exact hbind ▸ hgrows.trans ((hf a).grows w')
  · rcases hcases w with ⟨e, w', hw, hbind⟩ | ⟨a, w', hw, hbind⟩
    · have htold := h.told w
      rw [hw] at htold
      rw [hbind] at hfails ⊢
      exact htold (inStage_error_iff.1 hfails)
    · have hgrows := h.grows w
      rw [hw] at hgrows
      rw [hbind] at hfails ⊢
      exact told_of_isPrefix hgrows ((hf a).told w' hfails)
  · rcases hcases w with ⟨e, w', hw, hbind⟩ | ⟨a, w', hw, hbind⟩
    · rw [hbind] at hok
      exact nomatch hok
    · have huntold := h.untold w a (congrArg Prod.fst hw)
      rw [hw] at huntold
      rw [hbind] at hok ⊢
      exact huntold.trans ((hf a).untold w' b hok)

theorem announces_onFiles_bind {act : FileAction β} {f : Except Failure β → Procedure σ α}
    (h : ∀ fs, Announces P (f (act fs).1)) :
    Announces P (Action.attempt (Procedure.onFiles act) >>= f) where
  grows w := (h w.files).grows { w with files := (act w.files).2 }
  told w := (h w.files).told { w with files := (act w.files).2 }
  untold w := (h w.files).untold { w with files := (act w.files).2 }

/-- A record of the kind announces the failure that comes after it. -/
theorem announces_failure {r : LogRecord} (hr : P r) (hwrites : Writes (fun r => ¬P r) act)
    (hfails : ∀ w a, (act w).1 ≠ .ok a) : Announces P (Procedure.record r >>= fun _ => act) := by
  have hgrows : ∀ w : Run σ, w.log ++ [r] <+: ((Procedure.record r >>= fun _ => act) w).2.log :=
    fun w => Untold.isPrefix (hwrites { w with log := w.log ++ [r] })
  refine ⟨fun w => (List.prefix_append w.log [r]).trans (hgrows w), fun w _ => ?_,
    fun w a hok => absurd hok (hfails { w with log := w.log ++ [r] } a)⟩
  have htold : Told P w.log (w.log ++ [r]) := ⟨[r], rfl, r, List.mem_singleton_self r, hr⟩
  exact htold.trans_isPrefix (hgrows w)

theorem announces_record_throw {r : LogRecord} (hr : P r) (e : Failure) :
    Announces P (Procedure.record r >>= fun _ => (throw e : Procedure σ α)) :=
  announces_failure hr (writes_throw e) fun _ _ h => nomatch h

theorem announces_refusal {r : LogRecord} (hr : P r) (z : Int) (failure : String → Failure) :
    Announces P (Procedure.record r >>= fun _ =>
      (do throw (failure (← Action.ofExcept (decimal z))) : Procedure σ α)) := by
  refine announces_failure hr ((writes_ofExcept _).bind fun _ => writes_throw _) fun w a => ?_
  rw [Action.bind_apply, Action.ofExcept_apply]
  cases decimal z with
  | error e => exact nofun
  | ok text => exact nofun

end Announces

section Files

/-- Steps on files in which no stage fails. -/
def Plain (act : FileAction α) : Prop :=
  ∀ fs, ¬InStage (act fs).1

/-- A failure that is not of a stage. -/
def Failure.OutOfStage (e : Failure) : Prop :=
  ∀ f, e.fault ≠ .stage f

theorem not_inStage_of_fails {o : Except Failure α} (h : Fails Failure.OutOfStage o) :
    ¬InStage o := by
  rintro ⟨f, causes, rfl⟩
  exact h _ rfl f rfl

theorem outOfStage_of_isRefusal {e : Failure} (h : e.isRefusal = true) : e.OutOfStage := by
  rintro f hf
  rw [Failure.isRefusal, hf] at h
  cases h

theorem covers_outOfStage (text : String) : Covers Failure.OutOfStage text :=
  ⟨fun _ => outOfStage_of_isRefusal, fun _ _ h => nomatch h⟩

theorem plain_of_failsWith {act : FileAction α} (h : FailsWith Failure.OutOfStage act) :
    Plain act :=
  fun fs => not_inStage_of_fails (h fs)

theorem not_inStage_bind {x : Except Failure α} {f : α → Except Failure β} (hx : ¬InStage x)
    (hf : ∀ a, ¬InStage (f a)) : ¬InStage (x >>= f) := by
  cases x with
  | error e => exact fun h => hx (inStage_error_iff.1 h)
  | ok a => exact hf a

theorem not_inStage_entryAt (fs : FileSystem) (p : Path) (goal : Goal) :
    ¬InStage (fs.entryAt p goal) :=
  not_inStage_of_fails (fs.fails_entryAt (covers_outOfStage _) goal)

end Files

end GuestImage
