import GuestImage.Log.Export
import GuestImage.Proofs.Hindering
import GuestImage.Proofs.Json
import GuestImage.Proofs.Sizes
import Mathlib.Data.List.Forall2

/-!
# The lines of a log

What is read from a line of a log is the record it was written for, but for the order of members
(`LogRecord.readFrom_line`), and a line holds no line feed. So the file of a log has a line for each
of its records and no other ones, in their order, if there is a record at all: without one it is an
empty line (`Log.writeTo_recorded_iff`).
-/

namespace GuestImage

namespace Json

mutual

/-- Values that are the same but for the order of the members of their objects. -/
inductive Same : Value → Value → Prop
  | null : Same .null .null
  | bool (b : Bool) : Same (.bool b) (.bool b)
  | int (z : Int) : Same (.int z) (.int z)
  | text (s : String) : Same (.text s) (.text s)
  | list {items items' : List Value} (same : SameItems items items') :
    Same (.list items) (.list items')
  | object {members members' : List (String × Value)} (same : SameMembers members members') :
    Same (.object members) (.object members')

/-- Items that are the same one by one. -/
inductive SameItems : List Value → List Value → Prop
  | nil : SameItems [] []
  | cons {v v' : Value} {items items' : List Value} (first : Same v v')
      (rest : SameItems items items') : SameItems (v :: items) (v' :: items')

/-- Members with the same names, in any order, and the same values. -/
inductive SameMembers : List (String × Value) → List (String × Value) → Prop
  | nil : SameMembers [] []
  | cons {name : String} {v v' : Value} {members members' all : List (String × Value)}
      (value : Same v v') (rest : SameMembers members members')
      (order : all.Perm ((name, v') :: members')) : SameMembers ((name, v) :: members) all

end

mutual

/-- The integers in a value. -/
def Value.integers : Value → List Int
  | .int z => [z]
  | .list items => integersOfItems items
  | .object members => integersOfMembers members
  | _ => []

/-- The integers in the items. -/
def integersOfItems : List Value → List Int
  | [] => []
  | v :: rest => v.integers ++ integersOfItems rest

/-- The integers in the members. -/
def integersOfMembers : List (String × Value) → List Int
  | [] => []
  | (_, v) :: rest => v.integers ++ integersOfMembers rest

end

section Same

mutual

theorem same_sorted : ∀ v : Value, Same v v.sorted
  | .null => .null
  | .bool b => .bool b
  | .int z => .int z
  | .text s => .text s
  | .list items => .list (sameItems_sorted items)
  | .object members => .object (sameMembers_sorted members)

theorem sameItems_sorted : ∀ items : List Value, SameItems items (sortedItems items)
  | [] => .nil
  | v :: items => .cons (same_sorted v) (sameItems_sorted items)

theorem sameMembers_sorted : ∀ members : List (String × Value),
    SameMembers members (sortedMembers members)
  | [] => .nil
  | (_, v) :: members =>
    .cons (same_sorted v) (sameMembers_sorted members) (insertMember_perm _ _)

end

/-- The order of members with different names does not matter to who looks for a name. -/
theorem lookup_eq_of_perm {members members' : List (String × Value)} (h : members.Perm members')
    (hnames : (members.map Prod.fst).Nodup) (name : String) :
    members.lookup name = members'.lookup name := by
  induction h with
  | nil => rfl
  | cons m _ ih =>
    rw [List.lookup_cons, List.lookup_cons, ih (List.nodup_cons.1 hnames).2]
  | swap m m' members =>
    -- a name is that of one of the two at most
    obtain ⟨first, v⟩ := m
    obtain ⟨second, v'⟩ := m'
    have hne : second ≠ first := by
      rintro rfl
      simp at hnames
    by_cases hname : name = first
    · have hother : (name == second) = false := by simpa [hname] using hne.symm
      simp only [List.lookup_cons, hother]
    · have hother : (name == first) = false := by simpa using hname
      simp only [List.lookup_cons, hother]
  | trans hfirst _ ih ih' =>
    exact (ih hnames).trans (ih' ((hfirst.map Prod.fst).nodup_iff.1 hnames))

theorem SameMembers.names_perm {members members' : List (String × Value)}
    (h : SameMembers members members') :
    (members'.map Prod.fst).Perm (members.map Prod.fst) := by
  induction members generalizing members' with
  | nil => cases h; exact .refl _
  | cons m members ih =>
    cases h with
    | cons _ rest order => exact (order.map Prod.fst).trans ((ih rest).cons _)

theorem SameMembers.lookup {members members' : List (String × Value)}
    (h : SameMembers members members') (hnames : (members.map Prod.fst).Nodup) (name : String) :
    Option.Rel Same (members.lookup name) (members'.lookup name) := by
  induction members generalizing members' with
  | nil => cases h; exact .none
  | cons m members ih =>
    have hall := h.names_perm.nodup_iff.2 hnames
    cases h with
    | @cons first _ _ _ _ _ value rest order =>
      rw [lookup_eq_of_perm order hall, List.lookup_cons, List.lookup_cons]
      cases name == first with
      | true => exact .some value
      | false => exact ih rest (List.nodup_cons.1 hnames).2

end Same

section Integers

theorem isSome_text?_iff (z : Int) : (Decimal.text? z).isSome = true ↔ Writable z := by
  unfold Decimal.text? Writable
  split_ifs with hz
  · simp [hz]
  · simp [hz]

mutual

theorem writable_iff : ∀ v : Value, v.writable = true ↔ ∀ z ∈ v.integers, Writable z
  | .null => by simp [Value.writable, Value.integers]
  | .bool b => by simp [Value.writable, Value.integers]
  | .int z => by simp [Value.writable, Value.integers, isSome_text?_iff]
  | .text s => by simp [Value.writable, Value.integers]
  | .list items => writableItems_iff items
  | .object members => writableMembers_iff members

theorem writableItems_iff : ∀ items : List Value,
    writableItems items = true ↔ ∀ z ∈ integersOfItems items, Writable z
  | [] => by simp [writableItems, integersOfItems]
  | v :: items => by
    rw [writableItems, Bool.and_eq_true, writable_iff v, writableItems_iff items,
      integersOfItems, List.forall_mem_append]

theorem writableMembers_iff : ∀ members : List (String × Value),
    writableMembers members = true ↔ ∀ z ∈ integersOfMembers members, Writable z
  | [] => by simp [writableMembers, integersOfMembers]
  | (_, v) :: members => by
    rw [writableMembers, Bool.and_eq_true, writable_iff v, writableMembers_iff members,
      integersOfMembers, List.forall_mem_append]

end

end Integers

end Json

open Json (Same)

namespace LogRecord

/-- A record is read from a line, and what is extra in it exactly if the record has that. -/
def ReadFrom (r : LogRecord) (line : List Char) : Prop :=
  ∃ members, Json.parse? line = some (.object members) ∧ Same r.toJson (.object members) ∧
    Option.Rel Same r.extra (members.lookup "extra")

/-- The line of a record. -/
def line (r : LogRecord) : List Char :=
  Json.render .line 0 r.toJson.sorted

variable (r : LogRecord)

theorem newline_notMem_line : '\n' ∉ r.line :=
  (Json.printed_render .line r.toJson.sorted 0).newline_notMem

theorem nodup_names : (r.members.map Prod.fst).Nodup := by
  unfold members
  cases r.extra with
  | none => simp
  | some => simp

theorem lookup_extra : r.members.lookup "extra" = r.extra := by
  unfold members
  cases r.extra with
  | none => rfl
  | some => rfl

theorem readFrom_line : r.ReadFrom r.line := by
  have hnone : ∀ c ∈ ([] : List Char), Json.isSpace c = true := nofun
  have hread := Json.parse?_render .line r.toJson.sorted hnone
  rw [List.append_nil] at hread
  have hsame := (Json.sameMembers_sorted r.members).lookup r.nodup_names "extra"
  rw [lookup_extra] at hsame
  exact ⟨_, hread, Json.same_sorted r.toJson, hsame⟩

theorem integers_ofText? (s : Option String) : (Json.Value.ofText? s).integers = [] := by
  cases s with
  | none => rfl
  | some => rfl

theorem encode?_toJson (h : ∀ v ∈ r.extra, ∀ z ∈ v.integers, Writable z) :
    Json.encode? .line r.toJson = some r.line := by
  refine if_pos ((Json.writable_iff _).2 fun z hz => ?_)
  unfold toJson members at hz
  rcases hextra : r.extra with _ | v
  · simp [Json.Value.integers, Json.integersOfMembers, integers_ofText?, hextra] at hz
  · simp only [Json.Value.integers, Json.integersOfMembers, integers_ofText?, hextra,
      List.nil_append, List.cons_append, List.append_nil] at hz
    exact h v hextra z hz

end LogRecord

namespace Log

/-- No record has an integer with more digits than can be written. -/
def Writable (log : Log) : Prop :=
  ∀ r ∈ log, ∀ v ∈ r.extra, ∀ z ∈ v.integers, GuestImage.Writable z

instance (log : Log) : Decidable log.Writable :=
  inferInstanceAs (Decidable (∀ r ∈ log, ∀ v ∈ r.extra, ∀ z ∈ v.integers, GuestImage.Writable z))

/-- A text with a line for each record, closed by a line feed, and no other lines. -/
def Recorded (log : Log) (text : String) : Prop :=
  ∃ lines, text.toList.splitOn '\n' = lines ++ [[]] ∧ List.Forall₂ LogRecord.ReadFrom log lines

section Recorded

variable {log : Log}

theorem jsonLines?_eq (h : log.Writable) : log.jsonLines? = some (log.map LogRecord.line) := by
  induction log with
  | nil => rfl
  | cons r log ih =>
    have hrest := ih fun r' hr' => h r' (List.mem_cons_of_mem r hr')
    rw [jsonLines?, r.encode?_toJson (h r List.mem_cons_self), hrest, List.map_cons]

theorem intercalate_concat_nil {lines : List (List Char)} (h : lines ≠ []) :
    ['\n'].intercalate lines ++ ['\n'] = ['\n'].intercalate (lines ++ [[]]) := by
  induction lines with
  | nil => exact absurd rfl h
  | cons line lines ih =>
    cases lines with
    | nil => simp
    | cons line' lines =>
      have ih := ih (List.cons_ne_nil _ _)
      simp only [List.intercalate_cons_cons, List.cons_append, List.append_assoc] at ih ⊢
      rw [ih]

/-- The lines of a text are read back from it. -/
theorem splitOn_lines {lines : List (List Char)} (h : ∀ line ∈ lines, '\n' ∉ line)
    (hne : lines ≠ []) :
    (['\n'].intercalate lines ++ ['\n']).splitOn '\n' = lines ++ [[]] := by
  rw [intercalate_concat_nil hne]
  refine List.splitOn_intercalate '\n' (fun line hline => ?_) (by simp)
  rcases List.mem_append.1 hline with hline | hline
  · exact h line hline
  · simp [List.mem_singleton.1 hline]

theorem jsonText?_eq (h : log.Writable) : log.jsonText? =
    some (String.ofList (['\n'].intercalate (log.map LogRecord.line) ++ ['\n'])) := by
  rw [jsonText?, jsonLines?_eq h, Option.map_some]

theorem not_recorded_nil : ¬ Recorded [] "\n" := by
  -- no lines are joined to the same text as an empty one
  rintro ⟨lines, hlines, hread⟩
  obtain rfl := List.forall₂_nil_left_iff.1 hread
  revert hlines
  decide

/-- Where there is a record, there are no lines but those of the records. -/
theorem recorded_of_ne_nil (hne : log ≠ []) : log.Recorded
    (String.ofList (['\n'].intercalate (log.map LogRecord.line) ++ ['\n'])) := by
  refine ⟨log.map LogRecord.line, ?_, ?_⟩
  · rw [String.toList_ofList]
    refine splitOn_lines (fun line hline => ?_) (by simpa using hne)
    obtain ⟨r, -, rfl⟩ := List.mem_map.1 hline
    exact r.newline_notMem_line
  · exact List.forall₂_map_right_iff.2 (List.forall₂_same.2 fun r _ => r.readFrom_line)

theorem recorded_iff {text : String} (h : log.Writable) (htext : log.jsonText? = some text) :
    (log.Recorded text ↔ log ≠ []) ∧ (log = [] → text = "\n") := by
  rw [jsonText?_eq h, Option.some_inj] at htext
  by_cases hnil : log = []
  · subst hnil
    obtain rfl : "\n" = text := htext
    exact ⟨⟨fun hrecorded => absurd hrecorded not_recorded_nil, fun hne => absurd rfl hne⟩,
      fun _ => rfl⟩
  · exact ⟨⟨fun _ => hnil, fun _ => htext ▸ recorded_of_ne_nil hnil⟩, fun h => absurd h hnil⟩

end Recorded

end Log

section Files

variable {fs : FileSystem} {p : Path} {octets : List UInt8}

/-- A path leads to a file with the given octets. -/
def FileSystem.LeadsToFile (fs : FileSystem) (p : Path) (octets : List UInt8) : Prop :=
  ∃ t mode content, fs.lookup [] fs.workDir p.route .object = .ok t ∧
    t.entry = some (.file mode content) ∧ content.toList = octets

theorem leadsToFile_of_putContent (h : (FileAction.putContent p octets fs).1 = .ok ()) :
    (FileAction.putContent p octets fs).2.LeadsToFile p octets := by
  unfold FileAction.putContent FileAction.create at h ⊢
  rw [Action.bind_apply] at h ⊢
  rcases hcreate : fs.create p with e | ⟨place, fs'⟩
  · rw [hcreate] at h
    cases h
  obtain ⟨mode, e, slashed, hlocate, hfile, rfl⟩ := exists_of_create hcreate
  have hmade := lookup_insert_file (by simp) hfile (FileSystem.lookup_of_locateNamed hlocate) mode
    .empty
  have hheld : (fs.insert place (.file mode .empty)).get? place = some (.file mode .empty) := by
    rw [FileSystem.get?_insert, if_pos rfl]
  dsimp only
  rw [Action.modify_apply]
  simp only [hheld]
  refine ⟨_, _, _, lookup_insert_file (by simp) ?_ hmade _ _, rfl, ?_⟩
  · intro old hold
    exact ⟨_, _, (Option.some.inj hold).symm⟩
  · simp [Content.toList]

theorem failsWith_putContent {P : Failure → Prop} (h : Covers P p.text) (octets : List UInt8) :
    FailsWith P (FileAction.putContent p octets) :=
  (failsWith_create h).bind fun _ _ => fails_ok ()

end Files

namespace Log

/-- A log is written unless the host refuses it, or for a zero character in the path. The lines of
its file are those of its records, unless there are none: then there is one that is empty. -/
theorem writeTo_recorded_iff {log : Log} (h : log.Writable) (path : Path) (fs : FileSystem) :
    Fails (fun e => e.isRefusal = true ∨ e = zeroCharacter ∧ '\x00' ∈ path.text.toList)
        (log.writeTo path fs).1 ∧
      ((log.writeTo path fs).1 = .ok () →
        ∃ text, (log.writeTo path fs).2.LeadsToFile path (Utf8.encode text) ∧
          (log.Recorded text ↔ log ≠ []) ∧ (log = [] → text = "\n")) := by
  obtain ⟨text, htext⟩ : ∃ text, log.jsonText? = some text := ⟨_, jsonText?_eq h⟩
  have hwrite : log.writeTo path =
      FileAction.makeDirectories path.parent FileAction.directoryMode >>= fun _ =>
        FileAction.putContent path (Utf8.encode text) := by
    unfold writeTo
    rw [htext]
  rw [hwrite]
  refine ⟨?_, fun hok => ⟨text, ?_, recorded_iff h htext⟩⟩
  · have hcovers : Covers (fun e => e.isRefusal = true ∨
        e = zeroCharacter ∧ '\x00' ∈ path.text.toList) path.text :=
      ⟨fun _ => .inl, fun hzero => .inr ⟨rfl, hzero⟩⟩
    have hparent := hcovers.of_subset (p := path.parent) fun _ hs => List.dropLast_subset _ hs
    exact ((failsWith_makeDirectories hparent _).bind fun _ =>
      failsWith_putContent hcovers _) fs
  · rw [Action.bind_apply] at hok ⊢
    generalize FileAction.makeDirectories path.parent FileAction.directoryMode fs = made
      at hok ⊢
    obtain ⟨_ | _, fs₁⟩ := made
    · cases hok
    · exact leadsToFile_of_putContent hok

section Hosts

/-- A log with a line feed in a record, and with what is extra in a record inside of others. -/
def sampleLog : Log :=
  [{ operation := "estimate", image := "a", stage := "shrink", message := "Minimum:\n10 blocks.",
     tool := "resize2fs", extra := some (.object [("size", .object [("unit", .null),
       ("blocks", .list [.int 10, .int (-1)])]), ("forced", .bool true)]) },
   { operation := "truncate", image := "a", stage := none, message := "\"ä😀\"" }]

/-- The lines of a log with records are theirs, and an empty log has a line that is nobody's. -/
theorem writeTo_recorded_bareHost :
    sampleLog.Writable ∧
      (∃ text, (sampleLog.writeTo (Path.ofText "logs/log.jsonl") (.bare ["work"])).2.LeadsToFile
        (Path.ofText "logs/log.jsonl") (Utf8.encode text) ∧ sampleLog.Recorded text) ∧
      (Log.writeTo [] (Path.ofText "logs/log.jsonl") (.bare ["work"])).2.LeadsToFile
        (Path.ofText "logs/log.jsonl") (Utf8.encode "\n") ∧ ¬ Recorded [] "\n" := by
  have hsample : sampleLog.Writable := by decide +kernel
  have hnone : Writable [] := nofun
  obtain ⟨text, hfile, hrecorded, -⟩ :=
    (writeTo_recorded_iff hsample (Path.ofText "logs/log.jsonl") (.bare ["work"])).2
      (by decide +kernel)
  obtain ⟨text', hfile', -, hline⟩ :=
    (writeTo_recorded_iff hnone (Path.ofText "logs/log.jsonl") (.bare ["work"])).2
      (by decide +kernel)
  obtain rfl := hline rfl
  exact ⟨hsample, ⟨text, hfile, hrecorded.2 (by simp [sampleLog])⟩, hfile', not_recorded_nil⟩

end Hosts

end Log

end GuestImage
